import Signpost.Matcher.Lookup
import Signpost.Proofs.Pattern.Reading
import Signpost.Proofs.Pattern.Taking

/-!
# URLs — taken apart

A client takes a URL apart before it asks for anything: the query begins with the first question
mark, and a scheme and a host come in front of the path if there are two slashes (`Reference`).
What the generator puts together from a scheme, a host and a path comes apart into these again,
provided that they leave the delimiters alone (`Route.IsComposed.ofText`).

* `Route.exists_isComposed`: what the URL of a route is put together from.
* `Route.IsComposed.ofText`: how it comes apart.
-/

namespace Signpost

/-- The parts of a URL in front of its query, as a client takes it apart. -/
structure Reference where
  scheme : Option String := none
  host   : Option String := none
  path   : String
  deriving DecidableEq, Repr

namespace Reference

/-- Takes apart what comes before the query. -/
def ofChars (text : List Char) : Reference :=
  match Target.scheme? text with
  | (scheme, '/' :: '/' :: rest) => {
      scheme := scheme.map String.ofList
      host := some (String.ofList (rest.takeWhile (· != '/')))
      path := String.ofList (rest.dropWhile (· != '/')) }
  | _ => { path := String.ofList text }

def ofText (url : String) : Reference := ofChars (url.toList.takeWhile (· != '?'))

end Reference

/-! ### Schemes -/

namespace Target

theorem scheme?_cons_slash (text : List Char) : scheme? ('/' :: text) = (none, '/' :: text) := by
  have hsplit : splitScheme? ('/' :: text) =
      (splitScheme? text).map fun x => ('/' :: x.1, x.2) := rfl
  unfold scheme?
  rw [hsplit]
  cases splitScheme? text with
  | none => rfl
  | some x =>
      have hslash : '/'.isAlpha = false := by decide
      simp [isScheme, hslash]

theorem splitScheme?_append {scheme : List Char} (h : ':' ∉ scheme) (rest : List Char) :
    splitScheme? (scheme ++ ':' :: '/' :: '/' :: rest) = some (scheme, '/' :: '/' :: rest) := by
  induction scheme with
  | nil => rfl
  | cons c cs ih =>
      obtain ⟨hc, hcs⟩ := not_or.1 (mt List.mem_cons.2 h)
      rw [List.cons_append, splitScheme?, ih hcs]
      · rfl
      · rintro _ rfl
        exact fun _ => hc rfl

/-- The characters of a scheme. -/
theorem not_mem_of_isScheme {scheme : List Char} (h : isScheme scheme = true) {c : Char}
    (hc : c = ':' ∨ c = '?') : c ∉ scheme := by
  cases scheme with
  | nil => cases h
  | cons d ds =>
      obtain ⟨hd, hds⟩ := Bool.and_eq_true_iff.1 h
      intro hmem
      rcases List.mem_cons.1 hmem with rfl | hmem
      · rcases hc with rfl | rfl <;> exact absurd hd (by decide)
      · have hchar := List.all_eq_true.1 hds c hmem
        rcases hc with rfl | rfl <;> exact absurd hchar (by decide)

theorem scheme?_append {scheme : List Char} (h : isScheme scheme = true) (rest : List Char) :
    scheme? (scheme ++ ':' :: '/' :: '/' :: rest) = (some scheme, '/' :: '/' :: rest) := by
  simp [scheme?, splitScheme?_append (not_mem_of_isScheme h (.inl rfl)), h]

end Target

/-! ### What a URL is put together from -/

namespace Route

/-- What a route is written with. -/
def writer (r : Route) (given : List (String × String)) (patterns : Patterns) : Writer :=
  ⟨r, given, patterns.defaults r.defaults⟩

/-- What comes in front of the path in the URL of a route. -/
def authority (r : Route) (host : Option String) : String :=
  host.elim "" fun h => r.schemes.head?.elim "" (· ++ ":") ++ "//" ++ h

/-- Whether a URL is put together from a host and a path that are written for the patterns of a
route. -/
structure IsComposed [Regex.Engine] (r : Route) (given : List (String × String))
    (patterns : Patterns) (host : Option String) (path url : String) : Prop where
  reads      : Patterns.ofRoute r = .ok patterns
  writesHost : Option.Rel
    (fun p s => (r.writer given patterns).writePattern hostSegment p = .ok s) patterns.host host
  writesPath : (r.writer given patterns).writePattern pathSegment patterns.path = .ok path
  joins      : ∃ query : String, url = r.authority host ++ path ++ query ∧
    (query = "" ∨ query.toList.head? = some '?') ∧
    ((∀ g ∈ given, patterns.hasVariable g.1 = true) → query = "")

/-- **What the URL of a route is put together from.** -/
theorem exists_isComposed [Regex.Engine] {r : Route} {given : List (String × String)} {url : String}
    (h : r.url given = .ok url) :
    ∃ patterns host path, r.IsComposed given patterns host path url := by
  obtain ⟨patterns, hpatterns, h⟩ := bind_eq_ok.1 h
  have hquery : ∀ front : String, front ++ (if (given.filter fun g =>
      !patterns.hasVariable g.1).isEmpty then "" else
        "?" ++ Form.encode (given.filter fun g => !patterns.hasVariable g.1)) = url →
      ∃ query : String, url = front ++ query ∧
        (query = "" ∨ query.toList.head? = some '?') ∧
        ((∀ g ∈ given, patterns.hasVariable g.1 = true) → query = "") := by
    rintro front rfl
    refine ⟨_, rfl, ?_, fun hall => ?_⟩
    · split
      case isTrue => exact .inl rfl
      case isFalse => exact .inr (by simp)
    · rw [if_pos (List.isEmpty_iff.2 (List.filter_eq_nil_iff.2 (by simpa using hall)))]
  cases hhost : patterns.host with
  | none =>
      simp only [hhost] at h
      obtain ⟨_, hnone, h⟩ := bind_eq_ok.1 h
      obtain rfl := Except.ok.inj hnone
      obtain ⟨path, hpath, h⟩ := bind_eq_ok.1 h
      exact ⟨patterns, none, path, hpatterns, hhost ▸ .none, hpath, hquery _ (Except.ok.inj h)⟩
  | some p =>
      simp only [hhost] at h
      obtain ⟨text, htext, h⟩ := bind_eq_ok.1 h
      obtain ⟨_, hauthority, h⟩ := bind_eq_ok.1 h
      obtain rfl := Except.ok.inj hauthority
      obtain ⟨path, hpath, h⟩ := bind_eq_ok.1 h
      exact ⟨patterns, some text, path, hpatterns, hhost ▸ .some htext, hpath,
        hquery _ (Except.ok.inj h)⟩

/-! ### How it comes apart -/

/-- Whether a host and a path leave alone what delimits the parts of a URL. -/
structure KeepsDelimiters (r : Route) (host : Option String) (path : String) : Prop where
  query     : '?' ∉ path.toList
  /-- A path that has nothing in front of it must not look like a host. -/
  authority : host = none → ¬ ['/', '/'] <+: path.toList
  name      : ∀ h ∈ host, '/' ∉ h.toList ∧ '?' ∉ h.toList
  scheme    : ∀ s ∈ r.schemes.head?, host.isSome → Target.isScheme s.toList = true

theorem takeWhile_append_of_notMem {c : Char} {text rest : List Char} (h : c ∉ text)
    (hrest : rest = [] ∨ rest.head? = some c) : (text ++ rest).takeWhile (· != c) = text := by
  have hall : ∀ d ∈ text, (d != c) = true := by
    rintro d hd
    simpa using fun heq : d = c => h (heq ▸ hd)
  rw [List.takeWhile_append_of_pos hall]
  rcases hrest with rfl | hrest
  · exact List.append_nil _
  · obtain ⟨ds, rfl⟩ := List.head?_eq_some_iff.1 hrest
    rw [List.takeWhile_cons_of_neg (by simp), List.append_nil]

theorem dropWhile_append_of_notMem {c : Char} {text rest : List Char} (h : c ∉ text)
    (hrest : rest.head? = some c) : (text ++ rest).dropWhile (· != c) = rest := by
  have hall : ∀ d ∈ text, (d != c) = true := by
    rintro d hd
    simpa using fun heq : d = c => h (heq ▸ hd)
  rw [List.dropWhile_append_of_pos hall]
  obtain ⟨ds, rfl⟩ := List.head?_eq_some_iff.1 hrest
  rw [List.dropWhile_cons_of_neg (by simp)]

/-- **A URL comes apart into what it is put together from**: the host and the path, and the scheme
that the route is bound to first, if there is a host. -/
theorem IsComposed.ofText [Regex.Engine] {r : Route} {given : List (String × String)}
    {patterns : Patterns} {host : Option String} {path url : String}
    (h : r.IsComposed given patterns host path url) (hkeeps : r.KeepsDelimiters host path)
    (hslash : path.toList.head? = some '/') :
    Reference.ofText url = ⟨host.bind fun _ => r.schemes.head?, host, path⟩ := by
  obtain ⟨query, rfl, hquery, -⟩ := h.joins
  obtain ⟨rest, hpath⟩ := List.head?_eq_some_iff.1 hslash
  have hend : query.toList = [] ∨ query.toList.head? = some '?' :=
    hquery.imp (fun hnone => by rw [hnone]; rfl) id
  have hbefore : (r.authority host ++ path ++ query).toList.takeWhile (· != '?') =
      (r.authority host).toList ++ path.toList := by
    rw [String.toList_append, String.toList_append]
    refine takeWhile_append_of_notMem (fun hmem => ?_) hend
    rcases List.mem_append.1 hmem with hmem | hmem
    · cases host with
      | none => simp [authority] at hmem
      | some t =>
          cases hhead : r.schemes.head? with
          | none =>
              simp [authority, hhead, (hkeeps.name t rfl).2] at hmem
          | some s =>
              have hscheme := Target.not_mem_of_isScheme (hkeeps.scheme s hhead rfl) (.inr rfl)
              simp [authority, hhead, hscheme, (hkeeps.name t rfl).2] at hmem
    · exact hkeeps.query hmem
  rw [Reference.ofText, hbefore]
  cases host with
  | none =>
      have hplain : (r.authority none).toList ++ path.toList = '/' :: rest := hpath
      rw [hplain, Reference.ofChars, Target.scheme?_cons_slash]
      have hone : ¬ ['/', '/'] <+: '/' :: rest := hpath ▸ hkeeps.authority rfl
      split
      case h_1 heq =>
        obtain ⟨-, hrest⟩ := Prod.mk.inj heq
        exact absurd ⟨_, hrest.symm⟩ hone
      case h_2 => rw [← hpath, String.ofList_toList]; rfl
  | some t =>
      have hhost : (t.toList ++ path.toList).takeWhile (· != '/') = t.toList :=
        takeWhile_append_of_notMem (hkeeps.name t rfl).1 (.inr hslash)
      have hrest : (t.toList ++ path.toList).dropWhile (· != '/') = path.toList :=
        dropWhile_append_of_notMem (hkeeps.name t rfl).1 hslash
      cases hhead : r.schemes.head? with
      | none =>
          have hplain : (r.authority (some t)).toList ++ path.toList =
              '/' :: '/' :: (t.toList ++ path.toList) := by
            simp [authority, hhead]
          rw [hplain, Reference.ofChars, Target.scheme?_cons_slash]
          simp [hhost, hrest]
      | some s =>
          have hscheme : (r.authority (some t)).toList ++ path.toList =
              s.toList ++ ':' :: '/' :: '/' :: (t.toList ++ path.toList) := by
            simp [authority, hhead]
          rw [hscheme, Reference.ofChars, Target.scheme?_append (hkeeps.scheme s hhead rfl)]
          simp [hhost, hrest]

end Route

end Signpost
