import Mathlib.Data.List.Forall2
import Signpost.Collection.Fingerprint
import Signpost.Proofs.Collection.Compiled
import Signpost.Proofs.Text.Bytes
import Signpost.Regex.Estimate

/-!
# Collections — what a fingerprint tells apart

The encoding that a fingerprint is taken of can be read back part by part: a text, a list or a
dictionary ends where its length says, whatever follows (`Fingerprint.Separates`).  So two encodings
that are equal come from equal options and from routes that agree field by field
(`Route.Alike`), with one exception: a name or a host that is absent is encoded as if it were empty.

Where the routes also agree on which of them have a name and a host, they differ in their handlers
and their middlewares alone, and these do not matter for a matcher.

* `Collection.alike_of_encoding`: what equal encodings say about the routes.
* `Collection.compile_bare`: handlers and middlewares do not matter for a matcher.
* `Collection.compile_eq_of_encoding`: collections with one encoding compile to the same.
-/

namespace Signpost

namespace Fingerprint

variable {α : Type} {P : α → Prop} {encode : α → List UInt8}

/-- Whether an encoding tells values apart, in front of anything. -/
def Separates (P : α → Prop) (encode : α → List UInt8) : Prop :=
  ∀ ⦃a b⦄, P a → P b → ∀ ⦃more more'⦄, encode a ++ more = encode b ++ more' → a = b ∧ more = more'

theorem separates_littleEndian64 : Separates (· < wordSize) littleEndian64 := by
  intro n m hn hm more more' h
  -- both numbers take eight bytes
  obtain ⟨hbytes, hmore⟩ := List.append_inj h rfl
  refine ⟨?_, hmore⟩
  have hbyte : ∀ k : Nat, k.toUInt8.toNat = k % 256 := fun k => by simp
  -- eight digits to the base 256
  simp only [littleEndian64, List.map_cons, List.map_nil, List.cons.injEq, ← UInt8.toNat_inj,
    hbyte, Nat.shiftRight_eq_div_pow] at hbytes
  simp only [wordSize] at hn hm
  omega

/-- Whether the length of a text fits into a machine word. -/
def IsShort (text : String) : Prop := text.utf8ByteSize < wordSize

instance (text : String) : Decidable (IsShort text) := Nat.decLt _ _

theorem separates_text : Separates IsShort encodeText := by
  intro s t hs ht more more' h
  simp only [encodeText, List.append_assoc] at h
  obtain ⟨hsize, h⟩ := separates_littleEndian64 hs ht h
  simp only [Text.toList_bytes, String.toUTF8_eq_toByteArray] at h
  obtain ⟨hbytes, hmore⟩ := List.append_inj h (by simpa using hsize)
  exact ⟨String.toByteArray_inj.1 (ByteArray.ext (Array.toList_inj.1 hbytes)), hmore⟩

/-- Lists of one length are told apart when their entries are. -/
theorem Separates.flatMap (h : Separates P encode) {as bs : List α} (has : ∀ a ∈ as, P a)
    (hbs : ∀ b ∈ bs, P b) (hlength : as.length = bs.length) {more more' : List UInt8}
    (heq : as.flatMap encode ++ more = bs.flatMap encode ++ more') : as = bs ∧ more = more' := by
  induction as generalizing bs with
  | nil =>
      obtain rfl := List.length_eq_zero_iff.1 hlength.symm
      exact ⟨rfl, heq⟩
  | cons a as ih =>
      obtain ⟨b, bs, rfl⟩ := List.exists_cons_of_length_eq_add_one hlength.symm
      obtain ⟨ha, has⟩ := List.forall_mem_cons.1 has
      obtain ⟨hb, hbs⟩ := List.forall_mem_cons.1 hbs
      rw [List.flatMap_cons, List.flatMap_cons, List.append_assoc, List.append_assoc] at heq
      obtain ⟨hab, hrest⟩ := h ha hb heq
      obtain ⟨htail, hmore⟩ := ih has hbs (Nat.succ.inj hlength) hrest
      exact ⟨by rw [hab, htail], hmore⟩

structure AreShort (texts : List String) : Prop where
  count : texts.length < wordSize
  each  : ∀ t ∈ texts, IsShort t

structure IsShortDict (d : Dict String) : Prop where
  count : d.size < wordSize
  each  : ∀ e ∈ d.toList, IsShort e.1 ∧ IsShort e.2

theorem separates_list : Separates AreShort encodeList := by
  intro as bs has hbs more more' h
  simp only [encodeList, List.append_assoc] at h
  obtain ⟨hlength, h⟩ := separates_littleEndian64 has.count hbs.count h
  exact separates_text.flatMap has.each hbs.each hlength h

theorem separates_entry : Separates (fun e : String × String => IsShort e.1 ∧ IsShort e.2)
    fun e => encodeText e.1 ++ encodeText e.2 := by
  rintro ⟨key, value⟩ ⟨key', value'⟩ ⟨hkey, hvalue⟩ ⟨hkey', hvalue'⟩ more more' h
  simp only [List.append_assoc] at h
  obtain ⟨rfl, hrest⟩ := separates_text hkey hkey' h
  obtain ⟨rfl, hmore⟩ := separates_text hvalue hvalue' hrest
  exact ⟨rfl, hmore⟩

theorem separates_dict : Separates IsShortDict encodeDict := by
  rintro ⟨es, hes⟩ ⟨es', hes'⟩ hd hd' more more' h
  simp only [encodeDict, List.append_assoc] at h
  obtain ⟨hlength, hrest⟩ := separates_littleEndian64 hd.count hd'.count h
  obtain ⟨rfl, hmore⟩ := separates_entry.flatMap hd.each hd'.each hlength hrest
  exact ⟨rfl, hmore⟩

end Fingerprint

open Fingerprint

namespace Route

/-- Whether the lengths of all texts and lists of a route fit into machine words. -/
structure IsShort (r : Route) : Prop where
  name     : Fingerprint.IsShort (r.name.getD "")
  path     : Fingerprint.IsShort r.path
  domain   : Fingerprint.IsShort (r.domain.getD "")
  methods  : AreShort r.methods
  schemes  : AreShort r.schemes
  patterns : IsShortDict r.patterns
  defaults : IsShortDict r.defaults

/-- Whether two routes agree on everything that is encoded, an absent name or host being as good as
an empty one. -/
structure Alike (r s : Route) : Prop where
  name     : r.name.getD "" = s.name.getD ""
  path     : r.path = s.path
  domain   : r.domain.getD "" = s.domain.getD ""
  methods  : r.methods = s.methods
  schemes  : r.schemes = s.schemes
  patterns : r.patterns = s.patterns
  defaults : r.defaults = s.defaults

theorem alike_of_encodeRoute {r s : Route} (hr : r.IsShort) (hs : s.IsShort)
    {more more' : List UInt8} (h : encodeRoute r ++ more = encodeRoute s ++ more') :
    r.Alike s ∧ more = more' := by
  simp only [encodeRoute, List.append_assoc] at h
  obtain ⟨hname, h⟩ := separates_text hr.name hs.name h
  obtain ⟨hpath, h⟩ := separates_text hr.path hs.path h
  obtain ⟨hdomain, h⟩ := separates_text hr.domain hs.domain h
  obtain ⟨hmethods, h⟩ := separates_list hr.methods hs.methods h
  obtain ⟨hschemes, h⟩ := separates_list hr.schemes hs.schemes h
  obtain ⟨hpatterns, h⟩ := separates_dict hr.patterns hs.patterns h
  obtain ⟨hdefaults, h⟩ := separates_dict hr.defaults hs.defaults h
  exact ⟨⟨hname, hpath, hdomain, hmethods, hschemes, hpatterns, hdefaults⟩, h⟩

theorem encodeRoute_ne_nil (r : Route) : encodeRoute r ≠ [] := by
  simp [encodeRoute, encodeText, littleEndian64]

/-- Routes are told apart without their number, for each of them begins with a length. -/
theorem alike_of_flatMap {rs ss : List Route} (hrs : ∀ r ∈ rs, r.IsShort)
    (hss : ∀ s ∈ ss, s.IsShort) (h : rs.flatMap encodeRoute = ss.flatMap encodeRoute) :
    List.Forall₂ Alike rs ss := by
  induction rs generalizing ss with
  | nil =>
      cases ss with
      | nil => exact .nil
      | cons s ss => simp [encodeRoute_ne_nil] at h
  | cons r rs ih =>
      cases ss with
      | nil => simp [encodeRoute_ne_nil] at h
      | cons s ss =>
          obtain ⟨hr, hrs⟩ := List.forall_mem_cons.1 hrs
          obtain ⟨hs, hss⟩ := List.forall_mem_cons.1 hss
          obtain ⟨halike, h⟩ := alike_of_encodeRoute hr hs h
          exact .cons halike (ih hrs hss h)

/-- Which of the fields that may be absent a route has: its name and its host. -/
def presence (r : Route) : Bool × Bool := (r.name.isSome, r.domain.isSome)

/-- A route without its handler and its middlewares. -/
def bare (r : Route) : Route := { r with handler := .named "", middlewares := [] }

theorem eq_of_getD {a b : Option String} (hsome : a.isSome = b.isSome)
    (hgetD : a.getD "" = b.getD "") : a = b := by
  cases a <;> cases b <;> simp_all

theorem Alike.bare_eq {r s : Route} (h : r.Alike s) (hpresence : r.presence = s.presence) :
    r.bare = s.bare := by
  obtain ⟨hsome, hsome'⟩ := Prod.mk.inj hpresence
  have hname := eq_of_getD hsome h.name
  have hdomain := eq_of_getD hsome' h.domain
  unfold bare
  rw [hname, h.path, hdomain, h.methods, h.schemes, h.patterns, h.defaults]

@[simp] theorem name_bare (r : Route) : r.bare.name = r.name := rfl

@[simp] theorem compile_bare [Regex.Engine] (r : Route) : r.bare.compile = r.compile := rfl

theorem map_bare_eq {rs ss : List Route} (h : List.Forall₂ Alike rs ss)
    (hpresence : rs.map presence = ss.map presence) : rs.map bare = ss.map bare := by
  induction h with
  | nil => rfl
  | cons hrs _ ih =>
      obtain ⟨hhead, htail⟩ := List.cons.inj hpresence
      rw [List.map_cons, List.map_cons, hrs.bare_eq hhead, ih htail]

end Route

namespace Strategy

theorem name_injective {s t : Strategy} (h : s.name = t.name) : s = t := by
  have hread := congrArg Strategy.ofName? h
  simpa [Strategy.ofName?_name] using hread

theorem isShort_name (s : Strategy) : IsShort s.name := by
  cases s <;> decide

end Strategy

namespace Collection

variable {c c' : Collection} {options options' : CompileOptions}

/-- **What equal encodings say**: the options are equal, and the routes agree one by one. -/
theorem alike_of_encoding (hc : ∀ r ∈ c.routes, r.IsShort) (hc' : ∀ r ∈ c'.routes, r.IsShort)
    (hlimit : options.sizeLimit < wordSize) (hlimit' : options'.sizeLimit < wordSize)
    (h : c.encoding options = c'.encoding options') :
    options = options' ∧ List.Forall₂ Route.Alike c.routes c'.routes := by
  simp only [encoding, List.append_assoc, List.append_cancel_left_eq] at h
  obtain ⟨hstrategy, h⟩ := separates_text (Strategy.isShort_name _) (Strategy.isShort_name _) h
  obtain ⟨hsize, h⟩ := separates_littleEndian64 hlimit hlimit' h
  refine ⟨?_, Route.alike_of_flatMap hc hc' h⟩
  obtain ⟨strategy, limit⟩ := options
  obtain ⟨strategy', limit'⟩ := options'
  obtain rfl := Strategy.name_injective hstrategy
  obtain rfl : limit = limit' := hsize
  rfl

/-! ### Handlers and middlewares do not matter -/

theorem repeatedName?_bare (seen : List String) (rs : List Route) :
    repeatedName? seen (rs.map Route.bare) = repeatedName? seen rs := by
  induction rs generalizing seen with
  | nil => rfl
  | cons r rs ih =>
      simp only [List.map_cons, repeatedName?, Route.name_bare, ih]

/-- The routes that are compiled so far, without their handlers. -/
def bareBefore (before : List (Route × CompiledRoute)) : List (Route × CompiledRoute) :=
  before.map fun b => (b.1.bare, b.2)

theorem find?_bareBefore (before : List (Route × CompiledRoute)) (r : Route)
    (compiled : CompiledRoute) :
    ((bareBefore before).find? fun b => samePlace b.2 compiled && overlaps b.1 r.bare) =
      (before.find? fun b => samePlace b.2 compiled && overlaps b.1 r).map
        fun b => (b.1.bare, b.2) := by
  rw [bareBefore, List.find?_map]
  rfl

theorem compileRoutes_bare [Regex.Engine] (before : List (Route × CompiledRoute))
    (rs : List Route) :
    compileRoutes (bareBefore before) (rs.map Route.bare) =
      (compileRoutes before rs).map bareBefore := by
  induction rs generalizing before with
  | nil => rfl
  | cons r rs ih =>
      -- the first step is the same, for neither the route itself nor whom it competes with changes
      simp only [List.map_cons, compileRoutes, Route.compile_bare, find?_bareBefore]
      cases r.compile with
      | error fault => rfl
      | ok compiled =>
          simp only [bind, Except.bind]
          cases before.find? fun b => samePlace b.2 compiled && overlaps b.1 r with
          | some first => rfl
          | none =>
              have hbefore : bareBefore before ++ [(r.bare, compiled)] =
                  bareBefore (before ++ [(r, compiled)]) := by simp [bareBefore]
              simp only [Option.map_none, hbefore, ih]

/-- **Handlers and middlewares do not matter** for a matcher, nor for what is wrong with a
collection. -/
theorem compile_bare [Regex.Engine] (rs : List Route) (options : CompileOptions) :
    (Collection.mk (rs.map Route.bare) []).compile options =
      (Collection.mk rs []).compile options := by
  have hroutes : compileRoutes [] (rs.map Route.bare) = (compileRoutes [] rs).map bareBefore :=
    compileRoutes_bare [] rs
  simp only [compile, repeatedName?_bare, hroutes]
  cases repeatedName? [] rs with
  | some name => rfl
  | none =>
      cases compileRoutes [] rs with
      | error fault => rfl
      | ok all =>
          have hsnd : (bareBefore all).map Prod.snd = all.map Prod.snd := by
            simp [bareBefore, Function.comp_def]
          simp only [Except.map, bind, Except.bind, hsnd]

theorem compile_eq_of_bare [Regex.Engine] (h : c.routes.map Route.bare = c'.routes.map Route.bare) :
    c.compile options = c'.compile options := by
  have hc := compile_bare c.routes options
  rw [h, compile_bare] at hc
  exact hc.symm

/-- **Collections with one encoding compile to the same**, be it a matcher or an error, if they
agree on which of their routes have a name and a host. -/
theorem compile_eq_of_encoding [Regex.Engine] (hc : ∀ r ∈ c.routes, r.IsShort)
    (hc' : ∀ r ∈ c'.routes, r.IsShort) (hlimit : options.sizeLimit < wordSize)
    (hlimit' : options'.sizeLimit < wordSize)
    (hpresence : c.routes.map Route.presence = c'.routes.map Route.presence)
    (h : c.encoding options = c'.encoding options') :
    c.compile options = c'.compile options' := by
  obtain ⟨rfl, halike⟩ := alike_of_encoding hc hc' hlimit hlimit' h
  exact compile_eq_of_bare (Route.map_bare_eq halike hpresence)

/-- The sample with other handlers. -/
def resampled : Collection := { routes := [
  { path := "/a", methods := ["POST"], handler := .resource "items" },
  { path := "/{y}", methods := ["GET"], handler := .named "other" }] }

theorem isShort_sample : ∀ r ∈ sample.routes ++ resampled.routes, r.IsShort := by
  have hnone : IsShortDict .empty := ⟨by decide, by simp [Dict.empty]⟩
  have hone : ∀ m : String, IsShort m → AreShort [m] := fun m hm =>
    ⟨Nat.lt_of_lt_of_le (by decide : 1 < 2) (by decide), by simpa using hm⟩
  intro r hr
  simp only [sample, resampled, List.cons_append, List.nil_append, List.mem_cons, List.not_mem_nil,
    or_false] at hr
  rcases hr with rfl | rfl | rfl | rfl <;>
    exact ⟨by decide, by decide, by decide, hone _ (by decide), ⟨by decide, by simp⟩, hnone, hnone⟩

/-- The sample compiles to the same with other handlers. -/
theorem compile_resampled : (∀ r ∈ sample.routes, r.IsShort) ∧ (∀ r ∈ resampled.routes, r.IsShort) ∧
    Regex.defaultSizeLimit < wordSize ∧
    sample.routes.map Route.presence = resampled.routes.map Route.presence ∧
    sample.encoding {} = resampled.encoding {} ∧ sample.compile {} = resampled.compile {} := by
  obtain ⟨hc, hc'⟩ := List.forall_mem_append.1 isShort_sample
  have hlimit : ({} : CompileOptions).sizeLimit < wordSize := by decide
  have hpresence : sample.routes.map Route.presence = resampled.routes.map Route.presence := rfl
  have hencoding : sample.encoding {} = resampled.encoding {} := rfl
  exact ⟨hc, hc', hlimit, hpresence, hencoding,
    compile_eq_of_encoding hc hc' hlimit hlimit hpresence hencoding⟩

/-! ### An absent host and an empty one -/

/-- **A matcher tells which routes have a host**. -/
theorem hosts_of_compile [Regex.Engine] {m : Matcher} (h : c.compile options = .ok m) :
    m.data.routes.map (fun r => r.host.isSome) = c.routes.map fun r => r.domain.isSome := by
  obtain ⟨compiled, runs, hmade⟩ := isMadeOf_of_compile h
  have hhosts : List.Forall₂ (fun (r : Route) (d : CompiledRoute) =>
      d.requirements.host.isSome = r.domain.isSome) c.routes compiled :=
    hmade.routes.imp fun _ _ hcompile =>
      (Route.isCompiledTo_of_compile hcompile).elim fun _ hp => hp.host
  rw [hmade.data, List.map_map]
  exact (List.forall₂_eq_eq_eq ▸ (List.forall₂_map_right_iff.2
    (List.forall₂_map_left_iff.2 (hhosts.imp fun _ _ => Eq.symm)))).symm

/-- A route for any host. -/
def anyHost : Collection := { routes := [
  { path := "/x", methods := ["GET"], handler := .named "" }] }

/-- The same route for the empty host. -/
def emptyHost : Collection := { routes := [
  { path := "/x", methods := ["GET"], handler := .named "", domain := some "" }] }

/-- **An absent host and an empty one are encoded alike**, but the routes do not compile to the
same. -/
theorem compile_anyHost_ne : anyHost.encoding {} = emptyHost.encoding {} ∧
    anyHost.compile {} ≠ emptyHost.compile {} := by
  refine ⟨rfl, fun heq => ?_⟩
  -- both would be compiled to one matcher, but a matcher tells which routes have a host
  obtain ⟨m, hm⟩ : ∃ m, anyHost.compile {} = .ok m := by
    have hroute := Route.compile_of_literal
      { path := "/x", methods := ["GET"], handler := .named "" } (by decide) rfl rfl rfl rfl
    rw [compile_eq_ofData rfl (compileRoutes_cons hroute rfl) (matcherData_of_literal {} (by simp))]
    exact ⟨_, rfl⟩
  have hhosts := hosts_of_compile hm
  rw [hosts_of_compile (heq ▸ hm)] at hhosts
  exact absurd hhosts (by decide)

end Collection

end Signpost
