import Signpost.Proofs.Collection.WellFormed
import Signpost.Proofs.Matcher.Scan
import Signpost.Regex.Estimate

/-!
# Collections — routes together and alone

A collection of routes that do not compete compiles when each of its routes does alone, if every
expression that merging comes to can be read.  The limit on the size is no obstacle then: runs that
are too big are halved, down to single fragments, and the expression of a single fragment is the one
of its route alone, whatever the strategy is (`Merged.ofFragments_singleton`).

That merged expressions can be read is not for nothing.  Each branch of a merged tree is a group
around the alternatives below it, and an expression may be nested no deeper than
`Regex.maxDepth`; one that is nested deeper is refused for good, and not halved.

* `Collection.exists_compile_alone`: what it takes to compile a single route.
* `Collection.exists_mergeChunks`: what it takes to merge leaves.
* `Collection.exists_compile_iff`: a collection compiles when its routes do and its merges are read.
-/

namespace Signpost

open Regex (Node)

/-! ### Single fragments -/

namespace Merged

theorem ofFragments_singleton (strategy : Strategy) (f : List Atom) :
    ofFragments strategy [f] = ofFragments .flat [f] := rfl

end Merged

/-! ### Merging -/

namespace Merging

variable {engine : Engine} {strategy : Strategy} {n : Nat} {s s' : Merging}

/-- The engine has taken every expression that is done. -/
theorem Steps.engine_of_mem_done (h : Steps engine strategy n s s') :
    ∀ merged ∈ s'.done, merged ∈ s.done ∨ engine merged.expression none := by
  induction h with
  | refl => exact fun merged hmem => .inl hmem
  | more hstep _ ih =>
      intro merged hmem
      rcases ih merged hmem with hdone | hengine
      · cases hstep with
        | fits h =>
            rcases List.mem_append.1 hdone with hdone | hlast
            · exact .inl hdone
            · obtain rfl := List.mem_singleton.1 hlast
              exact .inr h
        | halve => exact .inl hdone
      · exact .inr hengine

end Merging

section

variable [Regex.Engine]

namespace Collection

open Merging

variable {options : CompileOptions} {fragments run : List (List Atom)}

/-- Whether a run is merged into one expression at some time. -/
def IsTried (options : CompileOptions) (fragments run : List (List Atom)) : Prop :=
  ∃ n rest done, Steps (engineOf options) options.strategy n (start fragments)
    ⟨run :: rest, done⟩

/-- Whether the expression of a run can be read, however big it is. -/
def IsReadable (strategy : Strategy) (run : List (List Atom)) : Prop :=
  (Node.ofText? (Merged.ofFragments strategy run).expression.toList).isSome

theorem isReadable_iff (limit : Nat) : IsReadable options.strategy run ↔
    Regex.compile (Merged.ofFragments options.strategy run).expression limit ≠
      .error .badText := by
  unfold IsReadable Regex.compile
  cases Node.ofText? (Merged.ofFragments options.strategy run).expression.toList with
  | none => simp
  | some n =>
      by_cases hle : Regex.Engine.size n ≤ limit
      · simp [hle]
      · simp [hle]

/-- If merging succeeds, each run that is tried can be read. -/
theorem isReadable_of_isTried {merged : List Merged}
    (h : mergeChunks options fragments = .ok merged) (htried : IsTried options fragments run) :
    IsReadable options.strategy run := by
  obtain ⟨n, rest, done, htried⟩ := htried
  rcases mergeChunks_start options fragments with
    ⟨merged', n', -, hsteps⟩ | ⟨fault, s, n', herror, -, -⟩
  · -- the machine goes through the state at which the run comes up, and on from there
    obtain ⟨k, hrest⟩ := hsteps.through (Engine.ofLimit_unique options.sizeLimit) rfl htried
    refine (isReadable_iff options.sizeLimit).2 fun hbad => ?_
    have hanswer := Engine.ofLimit_some.2 hbad
    cases hrest with
    | more hstep =>
        cases hstep with
        | fits h => cases Engine.ofLimit_unique _ _ _ _ hanswer h
        | halve h => cases Engine.ofLimit_unique _ _ _ _ hanswer h
  · rw [herror] at h
    cases h

/-- **Merging succeeds** if the engine takes each fragment alone, and can read each run that is
tried. -/
theorem exists_mergeChunks
    (hsingle : ∀ f ∈ fragments, ∃ e,
      Regex.compile (Merged.standalone f).1 options.sizeLimit = .ok e)
    (htried : ∀ run, IsTried options fragments run → IsReadable options.strategy run) :
    ∃ merged n, mergeChunks options fragments = .ok merged ∧
      Steps (engineOf options) options.strategy n (start fragments) ⟨[], merged⟩ := by
  rcases mergeChunks_start options fragments with
    hok | ⟨fault, s, n, -, hsteps, hfails⟩
  · exact hok
  · exfalso
    cases hfails with
    | @badText run rest done hbad =>
        have hread := htried run ⟨n, rest, done, hsteps⟩
        exact (isReadable_iff options.sizeLimit).1 hread (Engine.ofLimit_some.1 hbad)
    | @tooBig run rest done hbig hle =>
        -- what cannot be halved is a single fragment, whose expression is that of its route alone
        obtain ⟨hpending, runs, -, -, hflatten⟩ := hsteps.isMergingOf (isMergingOf_start _ _)
        have hpos := List.length_pos_of_ne_nil (hpending run List.mem_cons_self)
        obtain ⟨f, rfl⟩ := List.length_eq_one_iff.1 (Nat.le_antisymm hle hpos)
        have hf : f ∈ fragments := by
          rw [← hflatten]
          simp
        obtain ⟨e, he⟩ := hsingle f hf
        have hsame : (Merged.ofFragments options.strategy [f]).expression =
            (Merged.standalone f).1 := by
          rw [Merged.ofFragments_singleton]
          rfl
        have hrefused := Engine.ofLimit_some.1 hbig
        rw [hsame, he] at hrefused
        cases hrefused

end Collection

/-! ### Matchers -/

omit [Regex.Engine] in
theorem exists_mapM_eq_ok {ε α β : Type} {f : α → Except ε β} {l : List α}
    (h : ∀ a ∈ l, ∃ b, f a = .ok b) : ∃ bs, l.mapM f = .ok bs := by
  cases hl : l.mapM f with
  | ok bs => exact ⟨bs, rfl⟩
  | error e =>
      obtain ⟨a, ha, herror⟩ := exists_of_mapM_eq_error hl
      obtain ⟨b, hb⟩ := h a ha
      rw [hb] at herror
      cases herror

namespace Matcher

/-- Data without a fault are accepted when their expressions are. -/
theorem exists_ofData {d : Data} (hfault : d.fault? = none)
    (hchunks : ∀ c ∈ d.chunks, ∃ e, Regex.compile c.expression d.sizeLimit = .ok e)
    (hleaves : ∀ l ∈ d.leaves, ∃ e, Regex.compile l.expression d.sizeLimit = .ok e)
    (hhosts : ∀ r ∈ d.routes, ∀ rule ∈ r.host, ∃ e,
      Regex.compile rule.expression d.sizeLimit = .ok e) : ∃ m, ofData d = .ok m := by
  have hcompile : ∀ expression, (∃ e, Regex.compile expression d.sizeLimit = .ok e) →
      ∃ e, d.compile expression = .ok e := by
    rintro expression ⟨e, he⟩
    exact ⟨e, by rw [Data.compile, he]; rfl⟩
  obtain ⟨chunks, hchunks⟩ := exists_mapM_eq_ok fun c hc => hcompile _ (hchunks c hc)
  obtain ⟨leaves, hleaves⟩ := exists_mapM_eq_ok fun l hl => hcompile _ (hleaves l hl)
  unfold ofData
  rw [hfault]
  simp only [hchunks, hleaves, bind, Except.bind]
  split
  case h_1 fault hfailed =>
    obtain ⟨r, hr, herror⟩ := exists_of_mapM_eq_error hfailed
    split at herror
    case h_1 rule hrule =>
      obtain ⟨e, he⟩ := hcompile _ (hhosts r hr rule hrule)
      rw [he] at herror
      cases herror
    case h_2 => cases herror
  case h_2 => exact ⟨_, rfl⟩

end Matcher

namespace CompiledRoute

/-- Whether the expressions of a compiled route fit under a limit: that of its path, unless it is
literal, and that of its host. -/
structure IsWithin (limit : Nat) (r : CompiledRoute) : Prop where
  path : r.staticPath? = none → ∃ e, Regex.compile (Merged.standalone r.atoms).1 limit = .ok e
  host : ∀ rule ∈ r.requirements.host, ∃ e, Regex.compile rule.expression limit = .ok e

end CompiledRoute

namespace Collection

open Matcher (Leaf)

variable {options : CompileOptions} {c : Collection}

/-! ### Routes that do not compete -/

/-- Whether two routes are for one place and have a method and a scheme in common. -/
def Competes (r s : Route) : Prop :=
  ∃ d e, r.compile = .ok d ∧ s.compile = .ok e ∧ samePlace d e = true ∧ overlaps r s = true

omit [Regex.Engine] in
theorem repeatedName?_eq_none {seen : List String} {rs : List Route}
    (hnodup : (rs.filterMap Route.name).Nodup)
    (hseen : ∀ name ∈ rs.filterMap Route.name, name ∉ seen) : repeatedName? seen rs = none := by
  induction rs generalizing seen with
  | nil => rfl
  | cons r rs ih =>
      unfold repeatedName?
      cases hname : r.name with
      | none =>
          rw [List.filterMap_cons, hname] at hnodup hseen
          exact ih hnodup hseen
      | some name =>
          rw [List.filterMap_cons, hname] at hnodup hseen
          obtain ⟨hnew, hnodup⟩ := List.nodup_cons.1 hnodup
          obtain ⟨hfirst, hseen⟩ := List.forall_mem_cons.1 hseen
          have hcontains : ¬ seen.contains name = true := by simpa using hfirst
          simp only [if_neg hcontains]
          refine ih hnodup fun other hother hmem => ?_
          rcases List.mem_cons.1 hmem with rfl | hmem
          · exact hnew hother
          · exact hseen other hother hmem

/-- Routes that do not compete are compiled when each of them is. -/
theorem exists_compileRoutes (before : List (Route × CompiledRoute)) {rs : List Route}
    (hbefore : ∀ b ∈ before, b.1.compile = .ok b.2) (hrs : ∀ r ∈ rs, ∃ d, r.compile = .ok d)
    (happart : (before.map Prod.fst ++ rs).Pairwise fun r s => ¬ Competes r s) :
    ∃ all, compileRoutes before rs = .ok all := by
  induction rs generalizing before with
  | nil => exact ⟨before, rfl⟩
  | cons r rs ih =>
      obtain ⟨⟨d, hd⟩, hrs⟩ := List.forall_mem_cons.1 hrs
      have hnone : (before.find? fun b => samePlace b.2 d && overlaps b.1 r) = none := by
        refine List.find?_eq_none.2 fun b hb hcompetes => ?_
        obtain ⟨hplace, hoverlaps⟩ := Bool.and_eq_true_iff.1 hcompetes
        have happart := (List.pairwise_append.1 happart).2.2 b.1 (List.mem_map_of_mem hb) r
          List.mem_cons_self
        exact happart ⟨b.2, d, hbefore b hb, hd, hplace, hoverlaps⟩
      rw [compileRoutes_cons hd hnone]
      refine ih _ (List.forall_mem_append.2 ⟨hbefore, ?_⟩) hrs ?_
      · simpa using hd
      · simpa using happart

/-! ### Routes and leaves -/

/-- Routes of one leaf have one expression. -/
theorem standalone_of_isOf {compiled : List CompiledRoute} {s : SharedLeaf} {d : CompiledRoute}
    (hroutes : List.Forall₂ (fun r d => r.compile = .ok d) c.routes compiled)
    (hs : s.IsOf compiled) (hd : d ∈ compiled) (hsame : d.expression = s.expression) :
    (Merged.standalone d.atoms).1 = (Merged.standalone s.atoms).1 := by
  have hexpression : ∀ d ∈ compiled, d.expression = String.ofList (Atom.expression d.atoms) := by
    intro d hd
    obtain ⟨r, -, hr⟩ := exists_of_mem_right hroutes hd
    obtain ⟨p, hp⟩ := Route.isCompiledTo_of_compile hr
    exact hp.expression
  obtain ⟨e, he, hatoms, hesame, -⟩ := hs.atoms
  rw [← hatoms]
  refine Merged.standalone_congr ?_
  rw [← hexpression d hd, ← hexpression e he, hsame, hesame]

/-- The leaves fit when the routes do. -/
theorem exists_compile_of_isOf {compiled : List CompiledRoute} {s : SharedLeaf}
    (hroutes : List.Forall₂ (fun r d => r.compile = .ok d) c.routes compiled)
    (hwithin : ∀ d ∈ compiled, d.IsWithin options.sizeLimit) (hs : s.IsOf compiled) :
    ∃ e, Regex.compile (Merged.standalone s.atoms).1 options.sizeLimit = .ok e := by
  obtain ⟨id, hid⟩ := List.exists_mem_of_ne_nil _ hs.nonempty
  obtain ⟨d, hd, hdynamic, hsame, -⟩ := hs.routes id hid
  have hmem := List.mem_of_getElem? hd
  rw [← standalone_of_isOf hroutes hs hmem hsame]
  exact (hwithin d hmem).path hdynamic

/-- A route is compiled to one thing at most. -/
theorem compile_rightUnique :
    Relator.RightUnique fun (r : Route) (d : CompiledRoute) => r.compile = .ok d :=
  fun _ _ _ hd he => Except.ok.inj (hd.symm.trans he)

omit [Regex.Engine] in
theorem exists_of_mem_leaves {compiled : List CompiledRoute} {merged : List Merged} {l : Leaf}
    (hl : l ∈ (dataOf options compiled merged).leaves) :
    ∃ s ∈ sharedLeaves 0 compiled [], ∃ layout, l = s.leaf layout := by
  rw [dataOf, ← List.map_uncurry_zip_eq_zipWith] at hl
  obtain ⟨⟨layout, s⟩, hmem, rfl⟩ := List.mem_map.1 hl
  exact ⟨s, (List.of_mem_zip hmem).2, layout, rfl⟩

/-- **The routes of a compiled collection fit under its limit.** -/
theorem isWithin_of_isMadeOf {m : Matcher} {compiled : List CompiledRoute}
    {runs : List (List SharedLeaf)} (h : IsMadeOf c options m compiled runs) :
    ∀ d ∈ compiled, d.IsWithin options.sizeLimit := by
  intro d hd
  have hlimit : m.data.sizeLimit = options.sizeLimit := by rw [h.data]
  refine ⟨fun hdynamic => ?_, fun rule hrule => ?_⟩
  · obtain ⟨id, hid⟩ := List.getElem?_of_mem hd
    have hshared := isShared_sharedLeaves compiled
    obtain ⟨s, hs, hmem⟩ := hshared.all id d hid hdynamic
    obtain ⟨d', hd', -, hsame, -⟩ := (hshared.each s hs).routes id hmem
    obtain rfl : d = d' := Option.some.inj (hid.symm.trans hd')
    obtain ⟨l, -, hl⟩ := exists_of_mem_right (Matcher.isLeafOfShared_of_isMadeOf h).flip hs
    rw [standalone_of_isOf h.routes (hshared.each s hs) hd hsame, ← hlimit]
    exact ⟨l.2, hl.compile⟩
  · have hhosts := h.ready.hosts
    rw [hlimit, h.data] at hhosts
    obtain ⟨host, -, hhost⟩ := exists_of_mem_right hhosts.flip
      (List.mem_map_of_mem (f := CompiledRoute.requirements) hd)
    have hhost : Matcher.IsHost options.sizeLimit d.requirements host := hhost
    unfold Matcher.IsHost at hhost
    rw [show d.requirements.host = some rule from hrule] at hhost
    obtain ⟨e, he, -⟩ := hhost
    exact ⟨e, he⟩

/-- Leaves that fit, merged into what the engine takes, make up a matcher with the hosts. -/
theorem exists_ofData_dataOf {compiled : List CompiledRoute} (hsize : compiled.length < wordSize)
    (hwithin : ∀ d ∈ compiled, d.IsWithin options.sizeLimit)
    (hleaf : ∀ s ∈ sharedLeaves 0 compiled [],
      ∃ e, Regex.compile (Merged.standalone s.atoms).1 options.sizeLimit = .ok e)
    {n : Nat} {merged : List Merged}
    (hsteps : Merging.Steps (engineOf options) options.strategy n
      (Merging.start ((sharedLeaves 0 compiled []).map SharedLeaf.atoms)) ⟨[], merged⟩) :
    ∃ m, Matcher.ofData (dataOf options compiled merged) = .ok m := by
  refine Matcher.exists_ofData ((isWellFormed_of_steps hsteps).fault?_eq_none hsize) ?_ ?_ ?_
  · intro chunk hchunk
    obtain ⟨expression, hmem, rfl⟩ := List.mem_map.1 hchunk
    rcases hsteps.engine_of_mem_done expression hmem with hstart | hengine
    · rw [Merging.done_start] at hstart
      cases hstart
    · exact Engine.ofLimit_none.1 hengine
  · intro l hl
    obtain ⟨s, hs, layout, rfl⟩ := exists_of_mem_leaves hl
    exact hleaf s hs
  · intro r hr rule hrule
    obtain ⟨d, hd, rfl⟩ := List.mem_map.1 hr
    exact (hwithin d hd).host rule hrule

/-- **Routes that fit and whose merges are read make up a matcher.** -/
theorem exists_compile_of_isWithin {compiled : List CompiledRoute}
    (hnames : (c.routes.filterMap Route.name).Nodup)
    (happart : c.routes.Pairwise fun r s => ¬ Competes r s)
    (hsize : c.routes.length < wordSize)
    (hroutes : List.Forall₂ (fun r d => r.compile = .ok d) c.routes compiled)
    (hwithin : ∀ d ∈ compiled, d.IsWithin options.sizeLimit)
    (htried : ∀ run, IsTried options ((sharedLeaves 0 compiled []).map SharedLeaf.atoms) run →
      IsReadable options.strategy run) : ∃ m, c.compile options = .ok m := by
  have hunique : repeatedName? [] c.routes = none := repeatedName?_eq_none hnames (by simp)
  have heach : ∀ r ∈ c.routes, ∃ d, r.compile = .ok d := by
    intro r hr
    obtain ⟨d, -, hd⟩ := exists_of_mem_right hroutes.flip hr
    exact ⟨d, hd⟩
  obtain ⟨all, hall⟩ := exists_compileRoutes [] (by simp) heach happart
  have hcompiled : all.map Prod.snd = compiled := by
    obtain ⟨compiled', hroutes', heq⟩ := compileRoutes_eq_ok hall
    rw [heq, List.map_nil, List.nil_append]
    exact List.right_unique_forall₂' compile_rightUnique hroutes' hroutes
  have hleaf : ∀ s ∈ sharedLeaves 0 compiled [],
      ∃ e, Regex.compile (Merged.standalone s.atoms).1 options.sizeLimit = .ok e := fun s hs =>
    exists_compile_of_isOf hroutes hwithin ((isShared_sharedLeaves compiled).each s hs)
  obtain ⟨merged, n, hmerge, hsteps⟩ := exists_mergeChunks (List.forall_mem_map.2 hleaf) htried
  have hdata : matcherData options (all.map Prod.snd) = .ok (dataOf options compiled merged) := by
    rw [hcompiled, matcherData_eq, hmerge]
    rfl
  rw [compile_eq_ofData hunique hall hdata]
  exact exists_ofData_dataOf (hroutes.length_eq ▸ hsize) hwithin hleaf hsteps

/-! ### Together and alone -/

/-- A collection of a single route. -/
def alone (r : Route) : Collection := { routes := [r] }

omit [Regex.Engine] in
theorem nodup_names_alone (r : Route) : ((alone r).routes.filterMap Route.name).Nodup := by
  cases hname : r.name <;> simp [alone, hname]

theorem ne_nil_of_isTried (h : IsTried options fragments run) : run ≠ [] := by
  obtain ⟨n, rest, done, hsteps⟩ := h
  exact (hsteps.isMergingOf (Merging.isMergingOf_start _ _)).nonempty run List.mem_cons_self

/-- Of a single fragment, nothing else is tried. -/
theorem eq_of_isTried (h : IsTried options fragments run) (hle : fragments.length ≤ 1) :
    run = fragments := by
  have hpos := List.length_pos_of_ne_nil (ne_nil_of_isTried h)
  obtain ⟨n, rest, done, hsteps⟩ := h
  obtain ⟨-, runs, -, -, hflatten⟩ := hsteps.isMergingOf (Merging.isMergingOf_start _ _)
  rw [List.flatten_cons] at hflatten
  have hlength := congrArg List.length hflatten
  simp only [List.length_append] at hlength
  have hruns : runs.flatten = [] := List.eq_nil_of_length_eq_zero (by omega)
  have hrest : rest.flatten = [] := List.eq_nil_of_length_eq_zero (by omega)
  rwa [hruns, hrest, List.nil_append, List.append_nil] at hflatten

omit [Regex.Engine] in
theorem sharedLeaves_singleton (d : CompiledRoute) :
    (sharedLeaves 0 [d] []).map SharedLeaf.atoms =
      if d.staticPath?.isSome then [] else [d.atoms] := by
  unfold sharedLeaves
  split <;> rfl

/-- The data of a single route with variables, whose expression fits. -/
theorem matcherData_singleton {d : CompiledRoute} {e : Regex} (hdynamic : d.staticPath? = none)
    (hfits : Regex.compile (Merged.ofFragments options.strategy [d.atoms]).expression
      options.sizeLimit = .ok e) :
    matcherData options [d] =
      .ok (dataOf options [d] [Merged.ofFragments options.strategy [d.atoms]]) := by
  have hno : ¬ d.staticPath?.isSome = true := by simp [hdynamic]
  rw [matcherData_eq, sharedLeaves_singleton, if_neg hno, mergeChunks_of_fits (by simp) hfits]
  rfl

/-- A single route is compiled to the matcher of its data. -/
theorem compile_alone_eq_ofData {r : Route} {d : CompiledRoute} {data : Matcher.Data}
    (hd : r.compile = .ok d) (hdata : matcherData options [d] = .ok data) :
    (alone r).compile options = Matcher.ofData data := by
  have hunique : repeatedName? [] (alone r).routes = none :=
    repeatedName?_eq_none (nodup_names_alone r) (by simp)
  have hall : compileRoutes [] (alone r).routes = .ok [(r, d)] := compileRoutes_cons hd rfl
  exact compile_eq_ofData hunique hall hdata

/-- **What it takes to compile a single route**: the expressions of the route itself. -/
theorem exists_compile_alone {r : Route} : (∃ m, (alone r).compile options = .ok m) ↔
    ∃ d, r.compile = .ok d ∧ d.IsWithin options.sizeLimit := by
  constructor
  · rintro ⟨m, hm⟩
    obtain ⟨compiled, runs, hmade⟩ := isMadeOf_of_compile hm
    obtain ⟨d, rest, hd, -, rfl⟩ := List.forall₂_cons_left_iff.1 hmade.routes
    exact ⟨d, hd, isWithin_of_isMadeOf hmade d List.mem_cons_self⟩
  · rintro ⟨d, hd, hwithin⟩
    have hroutes : List.Forall₂ (fun r d => r.compile = .ok d) (alone r).routes [d] :=
      .cons hd .nil
    refine exists_compile_of_isWithin (nodup_names_alone r) (List.pairwise_singleton _ _) ?_
      hroutes (by simpa using hwithin) ?_
    · exact Nat.lt_of_le_of_lt (Nat.le_refl 1) (by decide)
    · intro run htried
      rw [sharedLeaves_singleton] at htried
      split at htried
      case isTrue =>
        exact absurd (eq_of_isTried htried (Nat.zero_le 1)) (ne_nil_of_isTried htried)
      case isFalse hdynamic =>
        obtain rfl := eq_of_isTried htried (Nat.le_refl 1)
        obtain ⟨e, he⟩ := hwithin.path (by simpa using hdynamic)
        refine (isReadable_iff options.sizeLimit).2 fun hbad => ?_
        rw [Merged.ofFragments_singleton] at hbad
        rw [Merged.standalone, hbad] at he
        cases he

/-- Whether the engine can read every expression that merging the leaves of a collection comes to,
however big it is. -/
def MergesAreRead (c : Collection) (options : CompileOptions) : Prop :=
  ∀ compiled, List.Forall₂ (fun r d => r.compile = .ok d) c.routes compiled →
    ∀ run, IsTried options ((sharedLeaves 0 compiled []).map SharedLeaf.atoms) run →
      IsReadable options.strategy run

theorem mergesAreRead_of_compile {m : Matcher} (h : c.compile options = .ok m) :
    c.MergesAreRead options := by
  intro compiled' hroutes' run htried
  obtain ⟨compiled, d, hroutes, hd, -⟩ := exists_matcherData_of_compile h
  obtain rfl := List.right_unique_forall₂' compile_rightUnique hroutes hroutes'
  obtain ⟨merged, hmerged, -⟩ := bind_eq_ok.1 hd
  exact isReadable_of_isTried hmerged htried

/-- **Routes that do not compete compile together if and only if each of them does alone**, and the
engine can read what they are merged into. -/
theorem exists_compile_iff (hnames : (c.routes.filterMap Route.name).Nodup)
    (happart : c.routes.Pairwise fun r s => ¬ Competes r s)
    (hsize : c.routes.length < wordSize) :
    (∃ m, c.compile options = .ok m) ↔
      (∀ r ∈ c.routes, ∃ m, (alone r).compile options = .ok m) ∧ c.MergesAreRead options := by
  constructor
  · rintro ⟨m, hm⟩
    refine ⟨fun r hr => ?_, mergesAreRead_of_compile hm⟩
    obtain ⟨compiled, runs, hmade⟩ := isMadeOf_of_compile hm
    obtain ⟨d, hd, hrd⟩ := exists_of_mem_right hmade.routes.flip hr
    exact exists_compile_alone.2 ⟨d, hrd, isWithin_of_isMadeOf hmade d hd⟩
  · rintro ⟨halone, hread⟩
    have heach : ∀ r ∈ c.routes, ∃ d, r.compile = .ok d ∧ d.IsWithin options.sizeLimit :=
      fun r hr => exists_compile_alone.1 (halone r hr)
    obtain ⟨compiled, hroutes⟩ := exists_mapM_eq_ok fun r hr => (heach r hr).imp fun _ h => h.1
    have hroutes := mapM_eq_ok.1 hroutes
    refine exists_compile_of_isWithin hnames happart hsize hroutes ?_ (hread compiled hroutes)
    intro d hd
    obtain ⟨r, hr, hrd⟩ := exists_of_mem_right hroutes hd
    obtain ⟨d', hrd', hwithin⟩ := heach r hr
    obtain rfl := compile_rightUnique hrd hrd'
    exact hwithin

end Collection

end

namespace Collection

/-- The routes of the sample compile alone, for they do together. -/
theorem exists_compile_sample : (sample.routes.filterMap Route.name).Nodup ∧
    (sample.routes.Pairwise fun r s => ¬ Competes r s) ∧ sample.routes.length < wordSize ∧
    (∀ r ∈ sample.routes, ∃ m, (alone r).compile {} = .ok m) ∧ sample.MergesAreRead {} := by
  have hnames : (sample.routes.filterMap Route.name).Nodup := by decide
  have happart : sample.routes.Pairwise fun r s => ¬ Competes r s := by
    refine List.pairwise_pair.2 ?_
    rintro ⟨-, -, -, -, -, hoverlaps⟩
    exact absurd hoverlaps (by decide)
  have hsize : sample.routes.length < wordSize := by decide
  obtain ⟨m, hm⟩ : ∃ m, Matcher.ofData sampleData = .ok m := ⟨_, rfl⟩
  have htogether : ∃ m, sample.compile {} = .ok m := ⟨m, compile_sample.trans hm⟩
  exact ⟨hnames, happart, hsize, (exists_compile_iff hnames happart hsize).1 htogether⟩

/-! ### A merge that is nested too deep -/

/-- A letter in a number of parentheses. -/
def nested (n : Nat) : List Char := List.replicate n '(' ++ 'a' :: List.replicate n ')'

/-- A path variable whose constraint is nested deep, and a path that begins alike. -/
def nestedRoute (n : Nat) : Route :=
  { path := "/{x}", methods := ["GET"], handler := .named ""
    patterns := Dict.empty.insert "x" (String.ofList (nested n)) }

def plainRoute : Route := { path := "/b{y}", methods := ["POST"], handler := .named "" }

def nestedAtoms (n : Nat) : List Atom := [.char '/',
  .group ("(" ++ String.ofList (nested n) ++ ")") (some "x" :: List.replicate n none) false]

def plainAtoms : List Atom := [.char '/', .char 'b', .group "([^/]+)" [some "y"] true]

theorem exists_compile_of_any [Regex.Engine] (text : String) (limit : Nat)
    (h : (Node.ofText? text.toList).any (fun n => Regex.Engine.size n ≤ limit) = true) :
    ∃ r, Regex.compile text limit = .ok r := by
  unfold Regex.compile
  cases hn : Node.ofText? text.toList with
  | none =>
      rw [hn] at h
      cases h
  | some n =>
      rw [hn, Option.any_some, decide_eq_true_eq] at h
      exact ⟨⟨n⟩, by simp only [if_pos h]⟩

theorem any_of_compile [Regex.Engine] {text : String} {limit : Nat} {r : Regex} {P : Node → Bool}
    (hr : Regex.compile text limit = .ok r) (h : (Node.ofText? text.toList).any P = true) :
    P r.root = true := by
  rwa [Regex.ofText?_of_compile hr, Option.any_some] at h

theorem checkConstraint_of_compile [Regex.Engine] {source name constraint : String} {r : Regex}
    (hr : Regex.compile (anchoredConstraint constraint) Regex.defaultSizeLimit = .ok r)
    (hnamed : r.hasNamedGroup = false) :
    Pattern.checkConstraint source name constraint = .ok r.groupCount := by
  simp only [Pattern.checkConstraint, hr, hnamed, Bool.false_eq_true, if_false]

set_option maxRecDepth 4000 in
theorem checkConstraint_nested (source name : String) :
    Pattern.checkConstraint source name (String.ofList (nested 246)) = .ok 246 := by
  have htext : (anchoredConstraint (String.ofList (nested 246))).toList =
      '^' :: '(' :: '?' :: ':' :: (nested 246 ++ [')', '$']) := by
    simp [anchoredConstraint]
  obtain ⟨r, hr⟩ := exists_compile_of_any (anchoredConstraint (String.ofList (nested 246)))
    Regex.defaultSizeLimit (by rw [htext]; decide +kernel)
  have hnamed : (!r.hasNamedGroup) = true :=
    any_of_compile (P := fun n => !n.hasNamedGroup) hr (by rw [htext]; decide +kernel)
  have hcount : (r.groupCount == 246) = true :=
    any_of_compile (P := fun n => n.groupCount == 246) hr (by rw [htext]; decide +kernel)
  rw [checkConstraint_of_compile hr (by simpa using hnamed), beq_iff_eq.1 hcount]

set_option maxRecDepth 4000 in
theorem standalone_nested : ∃ e,
    Regex.compile (Merged.standalone (nestedAtoms 246)).1 Regex.defaultSizeLimit = .ok e := by
  have htext : (Merged.standalone (nestedAtoms 246)).1.toList =
      '^' :: '(' :: '?' :: ':' ::
        ('/' :: '(' :: (nested 246 ++ [')']) ++ ['(', ')', ')', '$']) := by
    have hslash : Regex.escapeChar '/' = ['/'] := by decide
    rw [Merged.toList_standalone]
    simp [nestedAtoms, Atom.expression, Atom.text, hslash]
  exact exists_compile_of_any _ _ (by rw [htext]; decide +kernel)

set_option maxRecDepth 4000 in
theorem not_isReadable_nested : ¬ IsReadable .segments [nestedAtoms 246, plainAtoms] := by
  have htext : (Merged.ofFragments .segments [nestedAtoms 246, plainAtoms]).expression.toList =
      '^' :: '(' :: '?' :: ':' :: '/' :: '(' :: '?' :: ':' ::
        ('(' :: (nested 246 ++ ')' :: '(' :: ')' :: '|' :: "b([^/]+)()))$".toList)) := by
    rw [Merged.toList_expression]
    have hslash : Regex.escapeChar '/' = ['/'] := by decide
    have hb : Regex.escapeChar 'b' = ['b'] := by decide
    simp [nestedAtoms, plainAtoms, Tree.ofFragments, Tree.insertAll, Tree.insertLast,
      Tree.sharedWith, Tree.sharedLength, Tree.head, Tree.isShareable, Tree.insertInto, Tree.text,
      Tree.textAll, Atom.expression, Atom.text, hslash, hb]
  rw [IsReadable, htext]
  decide +kernel

/-- A route with a single variable behind literal text, when its constraint is accepted. -/
theorem exists_compile_nested [Regex.Engine] {n : Nat} (hcheck : Pattern.checkConstraint "/{x}" "x"
    (String.ofList (nested n)) = .ok n) :
    ∃ d, (nestedRoute n).compile = .ok d ∧ d.atoms = nestedAtoms n ∧ d.staticPath? = none ∧
      d.vars = ["x"] ∧ d.requirements.host = none := by
  have hconstraint : effectiveConstraint (nestedRoute n).patterns pathSegment "x" none =
      String.ofList (nested n) := by
    simp [effectiveConstraint, nestedRoute]
  have hsegment : String.ofList (nested n) ≠ pathSegment := by
    intro heq
    have hmem : 'a' ∈ (String.ofList (nested n)).toList := by simp [nested]
    rw [heq] at hmem
    exact absurd hmem (by decide)
  have hatoms : (Pattern.mk "/{x}" [.text "/", .var "x" none none]).atoms pathSegment
      (nestedRoute n).patterns = .ok (nestedAtoms n) := by
    have hvar : Pattern.tokenAtoms "/{x}" pathSegment (nestedRoute n).patterns
        (.var "x" none none) = .ok [.ofVariable "x" (String.ofList (nested n)) n] :=
      Pattern.tokenAtoms_var.2 ⟨n, hconstraint ▸ hcheck, by rw [hconstraint]⟩
    exact Pattern.atoms_eq_ok.2 ⟨_, .cons (Pattern.tokenAtoms_text _) (.cons hvar .nil),
      by simp [nestedAtoms, Atom.ofVariable, hsegment]⟩
  have hparse : Pattern.parse "/{x}" = .ok ⟨"/{x}", [.text "/", .var "x" none none]⟩ := by rfl
  have hslash : "/{x}".toList.head? = some '/' := by decide
  have hcompile := Route.compile_of_atoms (nestedRoute n) _ (nestedAtoms n) (by simp [nestedRoute])
    hslash rfl hparse hatoms
  refine ⟨_, hcompile, rfl, rfl, ?_, rfl⟩
  simp [nestedAtoms, Atom.vars, Atom.captures, List.filterMap_replicate_of_none]

theorem exists_compile_plain : ∃ d, plainRoute.compile = .ok d ∧ d.atoms = plainAtoms ∧
    d.staticPath? = none ∧ d.vars = ["y"] ∧ d.requirements.host = none := by
  have hcheck : Pattern.checkConstraint "/b{y}" "y" pathSegment = .ok 0 := by rfl
  have hatoms : (Pattern.mk "/b{y}" [.text "/b", .var "y" none none]).atoms pathSegment
      plainRoute.patterns = .ok plainAtoms :=
    Pattern.atoms_eq_ok.2 ⟨_, .cons (Pattern.tokenAtoms_text _)
      (.cons (Pattern.tokenAtoms_var.2 ⟨0, hcheck, rfl⟩) .nil), rfl⟩
  have hparse : Pattern.parse "/b{y}" = .ok ⟨"/b{y}", [.text "/b", .var "y" none none]⟩ := by rfl
  have hslash : "/b{y}".toList.head? = some '/' := by decide
  have hcompile := Route.compile_of_atoms plainRoute _ plainAtoms (by decide) hslash rfl hparse
    hatoms
  exact ⟨_, hcompile, rfl, rfl, rfl, rfl⟩

/-- Two routes that do not compete, for they have no method in common. -/
def tooDeep : Collection := { routes := [nestedRoute 246, plainRoute] }

/-- **Two routes that compile alone and not together**: what they are merged into is nested too
deep, and is not halved. -/
theorem not_compile_tooDeep : (tooDeep.routes.filterMap Route.name).Nodup ∧
    (tooDeep.routes.Pairwise fun r s => ¬ Competes r s) ∧
    (∀ r ∈ tooDeep.routes, ∃ m, (alone r).compile {} = .ok m) ∧
    ¬ ∃ m, tooDeep.compile {} = .ok m := by
  obtain ⟨d, hd, hatoms, hdynamic, hvars, hhost⟩ :=
    exists_compile_nested (checkConstraint_nested _ _)
  obtain ⟨e, he, hatoms', hdynamic', hvars', hhost'⟩ := exists_compile_plain
  refine ⟨by decide, ?_, ?_, ?_⟩
  · refine List.pairwise_pair.2 ?_
    rintro ⟨-, -, -, -, -, hoverlaps⟩
    exact absurd hoverlaps (by decide)
  · have hwithin : d.IsWithin Regex.defaultSizeLimit := by
      refine ⟨fun _ => hatoms ▸ standalone_nested, fun rule hrule => ?_⟩
      rw [hhost] at hrule
      cases hrule
    have hwithin' : e.IsWithin Regex.defaultSizeLimit := by
      refine ⟨fun _ => hatoms' ▸ ⟨_, rfl⟩, fun rule hrule => ?_⟩
      rw [hhost'] at hrule
      cases hrule
    refine List.forall_mem_cons.2 ⟨exists_compile_alone.2 ⟨d, hd, hwithin⟩, ?_⟩
    exact List.forall_mem_cons.2 ⟨exists_compile_alone.2 ⟨e, he, hwithin'⟩, by simp⟩
  · -- the first run that is tried has both leaves, one of which is nested to the limit
    rintro ⟨m, hm⟩
    have hshared : (sharedLeaves 0 [d, e] []).map SharedLeaf.atoms =
        [nestedAtoms 246, plainAtoms] := by
      simp [sharedLeaves, share, hdynamic, hdynamic', hvars, hvars', hatoms, hatoms']
    have hread := mergesAreRead_of_compile hm [d, e] (.cons hd (.cons he .nil))
      [nestedAtoms 246, plainAtoms] ⟨0, [], [], by rw [hshared]; exact .refl _⟩
    exact not_isReadable_nested hread

end Collection

end Signpost
