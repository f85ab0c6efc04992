import Signpost.Proofs.Matcher.Tally

/-!
# Matching — what each step of a search adds

A matcher represents routes when each of them is in its index, or at one of its leaves, which are in
the order of their first routes (`Matcher.Represents`).  Trying leaves, searching the merged
expressions and skipping what comes too late each add to the routes that have been seen; in the end
these are all.

* `Matcher.Represents.knows_searchLeaves`: the search through the merged expressions.
* `Matcher.Represents.answers_lookup`: a lookup answers what the routes answer.
-/

namespace Signpost.Matcher

variable {rs : List CompiledRoute} {c : Context} {m : Matcher} {t : Tally} {seen : Nat → Prop}

/-- Whether a leaf says what its routes say, which are in ascending order. -/
structure IsLeafFor (rs : List CompiledRoute) (l : Leaf × Regex) : Prop where
  nonempty  : l.1.routes ≠ []
  ascending : l.1.routes.Pairwise (· < ·)
  routes    : ∀ id ∈ l.1.routes, ∃ r, rs[id]? = some r ∧
    ∀ path, r.values? path = (l.2.captures? path).map (valuesOf · l.1.standalone)

/-- Whether the routes of one leaf come after the first route of another one. -/
def Precedes (l l' : Leaf × Regex) : Prop :=
  ∀ head ∈ l.1.routes.head?, ∀ id ∈ l'.1.routes, head < id

variable [Regex.Engine]

/-- Whether a matcher looks routes up: literal paths in its index, and all others at its leaves. -/
structure Represents (m : Matcher) (rs : List CompiledRoute) : Prop where
  methods : ∀ r ∈ rs, r.requirements.methods ≠ []
  routes  : m.data.routes = rs.map CompiledRoute.requirements
  hosts   : List.Forall₂ (IsHost m.data.sizeLimit) m.data.routes m.hosts
  index   : Collection.IsIndex rs m.data.staticPaths
  literal : ∀ r ∈ rs, ∀ literal, r.staticPath? = some literal →
    ∀ path, r.values? path = if path = literal then some [] else none
  leaves  : ∀ l ∈ m.data.leaves.zip m.leaves, IsLeafFor rs l
  ordered : (m.data.leaves.zip m.leaves).Pairwise Precedes
  all     : ∀ id r, rs[id]? = some r → r.staticPath? = none →
    ∃ l ∈ m.data.leaves.zip m.leaves, id ∈ l.1.routes
  chunks  : ∃ parts, m.Covers parts

/-- The verdict on a route is that of its requirements, with the host that goes with them. -/
theorem exists_judge (hroutes : m.data.routes = rs.map CompiledRoute.requirements)
    (hhosts : List.Forall₂ (IsHost m.data.sizeLimit) m.data.routes m.hosts) {id : Nat}
    {r : CompiledRoute} (hr : rs[id]? = some r) (c : Context) :
    ∃ host, IsHost m.data.sizeLimit r.requirements host ∧
      ∀ values, m.judge c values id = r.requirements.judge host values c := by
  have hrule : m.data.routes[id]? = some r.requirements := by
    rw [hroutes, List.getElem?_map, hr]
    rfl
  obtain ⟨hlt, hget⟩ := List.getElem?_eq_some_iff.1 hrule
  have hlt' : id < m.hosts.length := hhosts.length_eq ▸ hlt
  have hhost := hhosts.get hlt hlt'
  rw [List.get_eq_getElem, List.get_eq_getElem, hget] at hhost
  refine ⟨m.hosts[id], hhost, fun values => ?_⟩
  simp only [judge, hrule, List.getElem?_eq_getElem hlt']
  rfl

namespace Represents

/-- The verdict of the matcher on a route whose path fits. -/
theorem says_judge (h : m.Represents rs) {id : Nat} {r : CompiledRoute} (hr : rs[id]? = some r)
    {values : List (String × Option String)} (hvalues : r.values? c.path = some values) :
    r.Says c (m.judge c values id) := by
  obtain ⟨host, hhost, hjudge⟩ := exists_judge h.routes h.hosts hr c
  rw [hjudge]
  exact CompiledRoute.says_judge hhost hvalues

/-- The verdicts on the routes of a leaf that matches. -/
theorem says_leaf (h : m.Represents rs) {l : Leaf × Regex} (hl : IsLeafFor rs l)
    {own : Regex.Captures} (hown : l.2.captures? c.path = some own) :
    ∀ id ∈ l.1.routes, ∃ r, rs[id]? = some r ∧
      r.Says c (m.judge c (valuesOf own l.1.standalone) id) := by
  intro id hid
  obtain ⟨r, hr, hvalues⟩ := hl.routes id hid
  refine ⟨r, hr, h.says_judge hr ?_⟩
  rw [hvalues, hown]
  rfl

omit [Regex.Engine] in
/-- The routes of a leaf that does not match do not fit. -/
theorem misfit {l : Leaf × Regex} (hl : IsLeafFor rs l) (hnone : l.2.captures? c.path = none) :
    ∀ id ∈ l.1.routes, ∀ r, rs[id]? = some r → ¬ r.Fits c := by
  intro id hid r hr hfits
  obtain ⟨r', hr', hvalues⟩ := hl.routes id hid
  obtain rfl : r = r' := Option.some.inj (hr.symm.trans hr')
  have hsome := hfits.path
  rw [hvalues, hnone] at hsome
  cases hsome

omit [Regex.Engine] in
/-- The first route of a leaf comes before all others there, and before those of later leaves. -/
theorem le_of_mem_leaves {l l' : Leaf × Regex} {leaves : List (Leaf × Regex)}
    (hl : IsLeafFor rs l) (hordered : (l :: leaves).Pairwise Precedes) {head id : Nat}
    (hhead : l.1.routes.head? = some head) (hl' : l' ∈ l :: leaves) (hid : id ∈ l'.1.routes) :
    head ≤ id := by
  rcases List.mem_cons.1 hl' with rfl | hl'
  · obtain ⟨ids, hroutes⟩ := List.head?_eq_some_iff.1 hhead
    have hascending := hl.ascending
    rw [hroutes] at hid hascending
    rcases List.mem_cons.1 hid with rfl | hid
    · exact Nat.le_refl _
    · exact Nat.le_of_lt (List.rel_of_pairwise_cons hascending hid)
  · exact Nat.le_of_lt ((List.pairwise_cons.1 hordered).1 l' hl' head hhead id hid)

omit [Regex.Engine] in
/-- When what has been found comes before the first route of a leaf, neither that leaf nor the ones
after it need be tried. -/
theorem knows_closed {l : Leaf × Regex} {leaves : List (Leaf × Regex)} (hl : IsLeafFor rs l)
    (hordered : (l :: leaves).Pairwise Precedes) (hclosed : ¬ l.1.routes.head?.all t.isOpen)
    (hknows : t.Knows rs c seen) :
    t.Knows rs c fun id => seen id ∨ ∃ l' ∈ l :: leaves, id ∈ l'.1.routes := by
  cases hhead : l.1.routes.head? with
  | none => exact absurd (List.head?_eq_none_iff.1 hhead) hl.nonempty
  | some head =>
      rw [hhead] at hclosed
      obtain ⟨found, hfound, hle⟩ := Tally.exists_of_not_isOpen hclosed
      refine hknows.skip hfound ?_
      rintro id (hid | ⟨l', hl', hid⟩)
      · exact .inl hid
      · exact .inr (hle.trans (le_of_mem_leaves hl hordered hhead hl' hid))

/-- Trying leaves. -/
theorem knows_tryLeaves (h : m.Represents rs) {leaves : List (Leaf × Regex)}
    (hleaves : ∀ l ∈ leaves, IsLeafFor rs l) (hordered : leaves.Pairwise Precedes)
    (hknows : t.Knows rs c seen) :
    (m.tryLeaves c t leaves).Knows rs c fun id => seen id ∨ ∃ l ∈ leaves, id ∈ l.1.routes := by
  induction leaves generalizing t seen with
  | nil => exact hknows.congr fun id => by simp
  | cons l leaves ih =>
      obtain ⟨hl, hleaves⟩ := List.forall_mem_cons.1 hleaves
      have hlater := (List.pairwise_cons.1 hordered).2
      rw [tryLeaves]
      split
      case isTrue hopen =>
        cases hown : l.2.captures? c.path with
        | some own =>
            have hstep := knows_tryRoutes hl.ascending (h.says_leaf hl hown) hknows
            refine (ih hleaves hlater hstep).congr fun id => ?_
            simp only [List.mem_cons, or_and_right, exists_or, exists_eq_left, or_assoc]
        | none =>
            refine (ih hleaves hlater hknows).reject ?_ ?_
            · rintro id (hid | ⟨l', hl', hid⟩)
              · exact .inl hid
              · exact .inr ⟨l', List.mem_cons_of_mem l hl', hid⟩
            · rintro id (hid | ⟨l', hl', hid⟩)
              · exact .inl (.inl hid)
              · rcases List.mem_cons.1 hl' with rfl | hl'
                · exact .inr (misfit hl hown id hid)
                · exact .inl (.inr ⟨l', hl', hid⟩)
      case isFalse hclosed => exact knows_closed hl hordered hclosed hknows

/-- Searching the merged expressions. -/
theorem knows_searchLeaves (h : m.Represents rs) (hknows : t.Knows rs c seen) :
    ∃ t', m.searchLeaves c t = .ok t' ∧ t'.Knows rs c fun id =>
      seen id ∨ ∃ l ∈ m.data.leaves.zip m.leaves, id ∈ l.1.routes := by
  obtain ⟨parts, hparts⟩ := h.chunks
  have hleaves := h.leaves
  have hordered := h.ordered
  rcases searchLeaves_eq hparts c t with ⟨hnone, heq⟩ | ⟨before, leaf, after, own, hsplit, hbefore,
    hown, heq⟩
  · refine ⟨t, heq, hknows.reject (fun id => .inl) ?_⟩
    rintro id (hid | ⟨l, hl, hid⟩)
    · exact .inl hid
    · exact .inr (misfit (hleaves l hl) (hnone l hl) id hid)
  · rw [hsplit] at hleaves hordered ⊢
    obtain ⟨hfirst, hleaf, hlast⟩ : (∀ l ∈ before, IsLeafFor rs l) ∧ IsLeafFor rs leaf ∧
        ∀ l ∈ after, IsLeafFor rs l := by
      simpa only [List.forall_mem_append, List.forall_mem_cons] using hleaves
    have hlater := (List.pairwise_cons.1 (List.pairwise_append.1 hordered).2.1).2
    have hstep := knows_tryRoutes hleaf.ascending (h.says_leaf hleaf hown) hknows
    refine ⟨_, heq, (h.knows_tryLeaves hlast hlater hstep).reject ?_ ?_⟩
    · rintro id ((hid | hid) | ⟨l, hl, hid⟩)
      · exact .inl hid
      · exact .inr ⟨leaf, List.mem_append_right _ List.mem_cons_self, hid⟩
      · exact .inr ⟨l, List.mem_append_right _ (List.mem_cons_of_mem leaf hl), hid⟩
    · rintro id (hid | ⟨l, hl, hid⟩)
      · exact .inl (.inl (.inl hid))
      · rcases List.mem_append.1 hl with hl | hl
        · exact .inr (misfit (hfirst l hl) (hbefore l hl) id hid)
        · rcases List.mem_cons.1 hl with rfl | hl
          · exact .inl (.inl (.inr hid))
          · exact .inl (.inr ⟨l, hl, hid⟩)

/-- Looking up the literal paths. -/
theorem knows_literals (h : m.Represents rs) (c : Context) :
    (m.tryRoutes c [] {} ((m.data.staticPaths.get? c.path).getD [])).Knows rs c fun id =>
      ∃ r, rs[id]? = some r ∧ r.staticPath? ≠ none := by
  have hverdicts : ∀ id ∈ (m.data.staticPaths.get? c.path).getD [],
      ∃ r, rs[id]? = some r ∧ r.Says c (m.judge c [] id) := by
    intro id hid
    obtain ⟨r, hr, hliteral⟩ := (h.index.mem_iff c.path id).1 hid
    refine ⟨r, hr, h.says_judge hr ?_⟩
    rw [h.literal r (List.mem_of_getElem? hr) _ hliteral, if_pos rfl]
  refine (knows_tryRoutes (h.index.ascending c.path) hverdicts Tally.knows_empty).reject ?_ ?_
  · rintro id (hid | hid)
    · exact hid.elim
    · obtain ⟨r, hr, hliteral⟩ := (h.index.mem_iff c.path id).1 hid
      exact ⟨r, hr, by simp [hliteral]⟩
  · rintro id ⟨r, hr, hliteral⟩
    obtain ⟨literal, hliteral⟩ := Option.ne_none_iff_exists'.1 hliteral
    by_cases hpath : c.path = literal
    · exact .inl (.inr ((h.index.mem_iff c.path id).2 ⟨r, hr, hpath ▸ hliteral⟩))
    · refine .inr fun r' hr' hfits => ?_
      obtain rfl : r = r' := Option.some.inj (hr.symm.trans hr')
      have hsome := hfits.path
      rw [h.literal r (List.mem_of_getElem? hr) _ hliteral, if_neg hpath] at hsome
      cases hsome

/-- When what has been found comes before the first route of all leaves, none need be tried. -/
theorem knows_skipLeaves (h : m.Represents rs) (hknows : t.Knows rs c seen)
    (hclosed : ¬ (m.data.leaves.head?.bind fun l => l.routes.head?).any t.isOpen) :
    t.Knows rs c fun id => seen id ∨ ∃ l ∈ m.data.leaves.zip m.leaves, id ∈ l.1.routes := by
  have hleaves := h.leaves
  have hordered := h.ordered
  generalize hzip : m.data.leaves.zip m.leaves = leaves at hleaves hordered
  cases leaves with
  | nil => exact hknows.congr fun id => by simp
  | cons first rest =>
      obtain ⟨_, _, hdata, -, -⟩ := List.zip_eq_cons_iff.1 hzip
      have hfirst := hleaves first List.mem_cons_self
      refine knows_closed hfirst hordered (fun hopen => hclosed ?_) hknows
      rw [hdata, List.head?_cons, Option.bind_some]
      cases hhead : first.1.routes.head? with
      | none => exact absurd (List.head?_eq_none_iff.1 hhead) hfirst.nonempty
      | some head =>
          rw [hhead] at hopen
          exact hopen

/-- A lookup answers what the scan answers. -/
theorem answers_lookup (h : m.Represents rs) (c : Context) :
    ∃ res, m.lookup c = .ok res ∧ Answers rs c res := by
  have hliterals := h.knows_literals c
  generalize ht : m.tryRoutes c [] {} ((m.data.staticPaths.get? c.path).getD []) = t at hliterals
  have hfinal : ∀ t' : Tally, t'.Knows rs c (fun id =>
      (∃ r, rs[id]? = some r ∧ r.staticPath? ≠ none) ∨
        ∃ l ∈ m.data.leaves.zip m.leaves, id ∈ l.1.routes) → Answers rs c t'.resolution := by
    intro t' hknows
    refine Tally.answers_resolution h.methods (hknows.congr fun id => ?_)
    constructor
    · intro hlt
      cases hliteral : rs[id].staticPath? with
      | none => exact .inr (h.all id rs[id] (List.getElem?_eq_getElem hlt) hliteral)
      | some literal => exact .inl ⟨rs[id], List.getElem?_eq_getElem hlt, by simp [hliteral]⟩
    · rintro (⟨r, hr, -⟩ | ⟨l, hl, hid⟩)
      · exact (List.getElem?_eq_some_iff.1 hr).1
      · obtain ⟨r, hr, -⟩ := (h.leaves l hl).routes id hid
        exact (List.getElem?_eq_some_iff.1 hr).1
  simp only [lookup, ht]
  split
  case isTrue =>
    obtain ⟨t', heq, hknows⟩ := h.knows_searchLeaves hliterals
    rw [heq]
    exact ⟨t'.resolution, rfl, hfinal t' hknows⟩
  case isFalse hclosed => exact ⟨t.resolution, rfl, hfinal t (h.knows_skipLeaves hliterals hclosed)⟩

end Represents

end Signpost.Matcher
