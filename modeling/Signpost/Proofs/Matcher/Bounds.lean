import Signpost.Proofs.Matcher.Stored
import Signpost.Proofs.Matcher.Total
import Signpost.Regex.Estimate

/-!
# Matching — lookups stay inside of the tables

A matcher can be read from data that nobody has compiled.  What is checked when it is built has to
be enough for all requests to come.

A lookup takes routes and hosts by the number of a route, the first route of a leaf, and the leaves
of a chunk by their count.  `Matcher.Checked` is the lookup that refuses to go on where one of these
is not there.  It never does so in a matcher that has been built, except for the leaves of a chunk:
the counts of the chunks are added up in machine words, and so they may pass for the number of the
leaves when they are not.

* `Matcher.Checked.lookup_eq`: what is checked is right for the routes and the leaves.
* `Matcher.Data.claimsInRange_iff`: the chunks stay inside of the leaves when no sum wraps around.
* `Matcher.completes_of_ofData`: a matcher that is built answers every request.
* `Matcher.lookup_of_wrapping`: counts that wrap around.
-/

namespace Signpost.Matcher

variable {m : Matcher} {c : Context} {t : Tally} {values : List (String × Option String)}
  {d : Data}

/-! ### Lookups that check their indices -/

namespace Checked

/-- Judges a request by what route `id` asks for, if there is such a route. -/
def judge (m : Matcher) (c : Context) (values : List (String × Option String)) (id : Nat) :
    Except Error Verdict :=
  match m.data.routes[id]?, m.hosts[id]? with
  | some rule, some host => .ok (rule.judge host values c)
  | _, _                 => .error .outOfRange

/-- Tries routes in turn, as `Matcher.tryRoutes` does. -/
def tryRoutes (m : Matcher) (c : Context) (values : List (String × Option String)) :
    Tally → List Nat → Except Error Tally
  | t, []        => .ok t
  | t, id :: ids =>
    if t.isOpen id then do
      match ← judge m c values id with
      | .accepted params     => return { t with found? := some ⟨id, params⟩ }
      | .wrongMethod methods => tryRoutes m c values (t.allow methods) ids
      | .rejected            => tryRoutes m c values t ids
    else .ok t

/-- Tries leaves on their own, as `Matcher.tryLeaves` does. -/
def tryLeaves (m : Matcher) (c : Context) : Tally → List (Leaf × Regex) → Except Error Tally
  | t, []                           => .ok t
  | t, (leaf, expression) :: leaves =>
    match leaf.routes with
    | []         => .error .outOfRange
    | first :: _ =>
      if t.isOpen first then
        match expression.captures? c.path with
        | some captures => do
          let t ← tryRoutes m c (valuesOf captures leaf.standalone) t leaf.routes
          tryLeaves m c t leaves
        | none          => tryLeaves m c t leaves
      else .ok t

/-- Searches the merged expressions, as `Matcher.searchLeaves` does. -/
def searchLeaves (m : Matcher) (c : Context) (t : Tally) : Except Error Tally :=
  match firstMatch? c.path 0 (m.data.chunks.zip m.chunks) with
  | none                           => .ok t
  | some (offset, count, captures) =>
    let stop := (offset + count) % wordSize
    if stop < offset ∨ m.data.leaves.length < stop then .error .outOfRange
    else
      let leaves := (m.data.leaves.zip m.leaves).drop offset
      match (leaves.take (stop - offset)).findIdx? fun l => (captures.get? l.1.marker).isSome with
      | none   => .ok t
      | some i =>
        match leaves.drop i with
        | []              => .error .outOfRange
        | (leaf, _) :: rest => do
          let t ← tryRoutes m c (valuesOf captures leaf.bindings) t leaf.routes
          tryLeaves m c t rest

/-- Resolves a request to at most one route. -/
def lookup (m : Matcher) (c : Context) : Except Error Resolution := do
  let t ← tryRoutes m c [] {} ((m.data.staticPaths.get? c.path).getD [])
  let t ← match m.data.leaves with
    | []        => pure t
    | leaf :: _ =>
      match leaf.routes with
      | []         => .error .outOfRange
      | first :: _ => if t.isOpen first then searchLeaves m c t else pure t
  return t.resolution

/-- The methods of all routes that fit but for them. -/
def allowed (m : Matcher) (c : Context) : Except Error (List String) := do
  match ← lookup m c.withoutMethod with
  | .methodNotAllowed methods => return methods
  | _                         => return []

end Checked

/-- Whether the tables have all routes that they refer to, and leaves have a first one. -/
structure IsInRange (m : Matcher) : Prop where
  routes : ∀ id ∈ m.data.routeIds, id < m.data.routes.length
  hosts  : m.hosts.length = m.data.routes.length
  leaves : m.leaves.length = m.data.leaves.length
  heads  : ∀ l ∈ m.data.leaves, l.routes ≠ []

theorem IsReady.isInRange [Regex.Engine] (h : m.IsReady) : m.IsInRange := by
  obtain ⟨hroutes, hheads, -⟩ := fault?_eq_none_iff.1 h.noFault
  exact ⟨hroutes, h.hosts.length_eq.symm, h.leaves.length_eq.symm, hheads⟩

namespace IsInRange

theorem lt_of_mem_leaf (h : m.IsInRange) {l : Leaf} (hl : l ∈ m.data.leaves) :
    ∀ id ∈ l.routes, id < m.data.routes.length := fun id hid =>
  h.routes id (List.mem_append_right _ (List.mem_flatMap.2 ⟨l, hl, hid⟩))

theorem lt_of_mem_index (h : m.IsInRange) (path : String) :
    ∀ id ∈ (m.data.staticPaths.get? path).getD [], id < m.data.routes.length := by
  intro id hid
  cases hget : m.data.staticPaths.get? path with
  | none =>
      rw [hget] at hid
      cases hid
  | some ids =>
      rw [hget, Option.getD_some] at hid
      have hmem := Dict.mem_of_get? _ hget
      exact h.routes id (List.mem_append_left _ (List.mem_flatMap.2 ⟨_, hmem, hid⟩))

end IsInRange

namespace Checked

theorem judge_eq (h : m.IsInRange) {id : Nat} (hid : id < m.data.routes.length) :
    judge m c values id = .ok (m.judge c values id) := by
  have hhost : id < m.hosts.length := h.hosts ▸ hid
  simp only [judge, Matcher.judge, List.getElem?_eq_getElem hid, List.getElem?_eq_getElem hhost]
  rfl

theorem tryRoutes_eq (h : m.IsInRange) (t : Tally) {ids : List Nat}
    (hids : ∀ id ∈ ids, id < m.data.routes.length) :
    tryRoutes m c values t ids = .ok (m.tryRoutes c values t ids) := by
  induction ids generalizing t with
  | nil => rfl
  | cons id ids ih =>
      obtain ⟨hid, hids⟩ := List.forall_mem_cons.1 hids
      rw [tryRoutes, Matcher.tryRoutes, judge_eq h hid]
      by_cases hopen : t.isOpen id
      · rw [if_pos hopen, if_pos hopen]
        cases m.judge c values id with
        | rejected => exact ih t hids
        | wrongMethod methods => exact ih (t.allow methods) hids
        | accepted params => rfl
      · rw [if_neg hopen, if_neg hopen]

theorem tryLeaves_eq (h : m.IsInRange) (t : Tally) {leaves : List (Leaf × Regex)}
    (hleaves : ∀ l ∈ leaves, l.1 ∈ m.data.leaves) :
    tryLeaves m c t leaves = .ok (m.tryLeaves c t leaves) := by
  induction leaves generalizing t with
  | nil => rfl
  | cons l leaves ih =>
      obtain ⟨hl, hleaves⟩ := List.forall_mem_cons.1 hleaves
      obtain ⟨first, rest, hroutes⟩ := List.exists_cons_of_ne_nil (h.heads l.1 hl)
      rw [tryLeaves, Matcher.tryLeaves]
      simp only [hroutes, List.head?_cons, Option.all_some]
      by_cases hopen : t.isOpen first
      · rw [if_pos hopen, if_pos hopen]
        cases l.2.captures? c.path with
        | none => exact ih t hleaves
        | some captures =>
            have hroute := h.lt_of_mem_leaf hl
            rw [hroutes] at hroute
            simp only [tryRoutes_eq h t hroute]
            exact ih _ hleaves
      · rw [if_neg hopen, if_neg hopen]

/-- A search goes out of range for the leaves of a chunk only. -/
theorem searchLeaves_eq (h : m.IsInRange) (t : Tally) :
    searchLeaves m c t = m.searchLeaves c t := by
  unfold searchLeaves Matcher.searchLeaves
  cases firstMatch? c.path 0 (m.data.chunks.zip m.chunks) with
  | none => rfl
  | some hit =>
      obtain ⟨offset, count, captures⟩ := hit
      simp only
      generalize (offset + count) % wordSize = stop
      by_cases hrange : stop < offset ∨ m.data.leaves.length < stop
      · rw [if_pos hrange, if_pos hrange]
      · rw [if_neg hrange, if_neg hrange]
        have hmem : ∀ l ∈ (m.data.leaves.zip m.leaves).drop offset, l.1 ∈ m.data.leaves :=
          fun l hl => (List.of_mem_zip (List.mem_of_mem_drop hl)).1
        generalize (m.data.leaves.zip m.leaves).drop offset = leaves at hmem ⊢
        cases hi : (leaves.take (stop - offset)).findIdx? fun l =>
            (captures.get? l.1.marker).isSome with
        | none => rfl
        | some i =>
            cases hsplit : leaves.drop i with
            | nil =>
                -- the index has been found among the leaves
                obtain ⟨hlt, -⟩ := List.findIdx?_eq_some_iff_getElem.1 hi
                rw [List.length_take] at hlt
                have hle := List.drop_eq_nil_iff.1 hsplit
                omega
            | cons leaf rest =>
                have hall : ∀ l ∈ leaf :: rest, l.1 ∈ m.data.leaves := fun l hl =>
                  hmem l (List.mem_of_mem_drop (hsplit ▸ hl))
                obtain ⟨hleaf, hrest⟩ := List.forall_mem_cons.1 hall
                simp only [hsplit, tryRoutes_eq h t (h.lt_of_mem_leaf hleaf)]
                exact tryLeaves_eq h _ hrest

/-- **What a lookup takes from the tables is there**, the leaves of a chunk apart. -/
theorem lookup_eq (h : m.IsInRange) (c : Context) : lookup m c = m.lookup c := by
  simp only [lookup, Matcher.lookup, tryRoutes_eq h {} (h.lt_of_mem_index c.path)]
  generalize m.tryRoutes c [] {} ((m.data.staticPaths.get? c.path).getD []) = t
  cases hleaves : m.data.leaves with
  | nil => rfl
  | cons leaf leaves =>
      have hmem : leaf ∈ m.data.leaves := by
        rw [hleaves]
        exact List.mem_cons_self
      obtain ⟨first, rest, hroutes⟩ := List.exists_cons_of_ne_nil (h.heads leaf hmem)
      simp only [hroutes, List.head?_cons, Option.bind_some, Option.any_some,
        ← searchLeaves_eq h t]
      rfl

theorem allowed_eq (h : m.IsInRange) (c : Context) : allowed m c = m.allowed c := by
  unfold allowed Matcher.allowed
  exact congrArg (· >>= _) (lookup_eq h c.withoutMethod)

end Checked

/-! ### Chunks that stay inside of the leaves -/

theorem Data.covered_eq (d : Data) : d.covered = (d.chunks.map Chunk.leafCount).sum % wordSize := by
  rw [covered, List.sum, List.foldr_map]

/-- Whether the leaves that each chunk claims, after those of the chunks before it, are there. -/
def Data.ClaimsInRange (d : Data) : Prop :=
  ∀ before chunk after, d.chunks = before ++ chunk :: after →
    (before.map Chunk.leafCount).sum + chunk.leafCount ≤ d.leaves.length

/-- **The chunks stay inside of the leaves** when their counts add up to a machine word, and not
otherwise. -/
theorem Data.claimsInRange_iff (h : d.fault? = none) :
    d.ClaimsInRange ↔ (d.chunks.map Chunk.leafCount).sum < wordSize := by
  have hcovered := covered_of_fault? h
  rw [d.covered_eq] at hcovered
  constructor
  · intro hrange
    rcases List.eq_nil_or_concat d.chunks with hnil | ⟨before, last, hchunks⟩
    · rw [hnil]
      decide
    · -- the last chunk ends where the counts add up to
      rw [List.concat_eq_append] at hchunks
      have hlast := hrange before last [] hchunks
      rw [hchunks, List.map_append, List.sum_append, List.map_singleton, List.sum_singleton]
        at hcovered ⊢
      rw [← hcovered] at hlast
      exact Nat.lt_of_le_of_lt hlast (Nat.mod_lt _ (by decide))
  · intro hsmall before chunk after hchunks
    rw [Nat.mod_eq_of_lt hsmall, hchunks, List.map_append, List.map_cons, List.sum_append,
      List.sum_cons] at hcovered
    omega

theorem IsReady.isCounted [Regex.Engine] (h : m.IsReady)
    (hcounts : (m.data.chunks.map Chunk.leafCount).sum < wordSize) : m.IsCounted := by
  have hcovered := covered_of_fault? h.noFault
  rw [m.data.covered_eq, Nat.mod_eq_of_lt hcounts] at hcovered
  exact ⟨h.chunks.length_eq.symm, hcovered, hcovered ▸ hcounts⟩

/-! ### Requests to a matcher that has been built -/

/-- Whether a request comes to its end with every index in range. -/
structure Completes (m : Matcher) (c : Context) : Prop where
  lookup  : ∃ res, Checked.lookup m c = .ok res ∧ m.lookup c = .ok res
  allowed : ∃ methods, Checked.allowed m c = .ok methods ∧ m.allowed c = .ok methods

theorem completes_of_isCounted (h : m.IsInRange) (hcounted : m.IsCounted) (c : Context) :
    m.Completes c := by
  obtain ⟨res, hres, -⟩ := hcounted.exists_lookup c
  obtain ⟨other, hother, -⟩ := hcounted.exists_lookup c.withoutMethod
  have hallowed : ∃ methods, m.allowed c = .ok methods := by
    rw [Matcher.allowed, hother]
    cases other with
    | found found => exact ⟨[], rfl⟩
    | methodNotAllowed methods => exact ⟨methods, rfl⟩
    | notFound => exact ⟨[], rfl⟩
  obtain ⟨methods, hmethods⟩ := hallowed
  exact ⟨⟨res, (Checked.lookup_eq h c).trans hres, hres⟩,
    methods, (Checked.allowed_eq h c).trans hmethods, hmethods⟩

/-- **A matcher that is built answers every request**, whatever its data are.  Either the data are
refused, or there is a matcher.  If the counts of its chunks add up to a machine word, then they add
up to the number of its leaves, and every request comes to its end with every index in range.  This
is what it takes: otherwise a chunk claims leaves that are not there. -/
theorem completes_of_ofData [Regex.Engine] (d : Data) :
    (∃ e, ofData d = .error e ∧ e ≠ .outOfRange) ∨
      ∃ m, ofData d = .ok m ∧
        (d.ClaimsInRange ↔ (d.chunks.map Chunk.leafCount).sum < wordSize) ∧
        ((d.chunks.map Chunk.leafCount).sum < wordSize →
          (d.chunks.map Chunk.leafCount).sum = d.leaves.length ∧ ∀ c, m.Completes c) := by
  cases hdata : ofData d with
  | error e =>
      refine .inl ⟨e, rfl, ?_⟩
      rcases ofData_eq_error hdata with ⟨fault, -, rfl⟩ | ⟨fault, rfl⟩ <;> exact Error.noConfusion
  | ok m =>
      obtain ⟨rfl, hready⟩ := isReady_of_ofData hdata
      refine .inr ⟨m, rfl, Data.claimsInRange_iff hready.noFault, fun hcounts => ?_⟩
      have hcounted := hready.isCounted hcounts
      exact ⟨hcounted.sum, completes_of_isCounted hready.isInRange hcounted⟩

/-- The sample: a path that its only chunk matches. -/
theorem completes_of_sampleData : ∃ m, ofData Collection.sampleData = .ok m ∧
    (Collection.sampleData.chunks.map Chunk.leafCount).sum < wordSize ∧
    m.Completes (.of "GET" "/b") := by
  have hsome : (ofData Collection.sampleData).toOption.isSome := by decide +kernel
  obtain ⟨m, hm⟩ := Option.isSome_iff_exists.1 hsome
  have hm := toOption_eq_some.1 hm
  have hcounts : (Collection.sampleData.chunks.map Chunk.leafCount).sum < wordSize := by decide
  rcases completes_of_ofData Collection.sampleData with ⟨e, he, -⟩ | ⟨m', hm', -, hcompletes⟩
  · rw [hm] at he
    cases he
  · obtain rfl := Except.ok.inj (hm.symm.trans hm')
    exact ⟨m, hm, hcounts, (hcompletes hcounts).2 _⟩

/-! ### Counts that wrap around -/

/-- Two chunks, whose counts add up to one leaf if carries are dropped. -/
def wrapping : Data where
  staticPaths := .empty
  chunks := [⟨"^(?:/a())$", wordSize - 1⟩, ⟨"^(?:/b())$", 2⟩]
  leaves := [⟨1, [], "^(?:/a())$", [], [0]⟩]
  routes := [⟨["GET"], [], none, .empty⟩]
  sizeLimit := Regex.defaultSizeLimit

theorem fitsWords_wrapping : wrapping.FitsWords where
  staticPaths := by simp [wrapping, Dict.empty]
  chunks := by simp [wrapping, Chunk.FitsWords, wordSize]
  leaves := by
    intro l hl
    obtain rfl := List.mem_singleton.1 hl
    exact ⟨by decide, by simp, by simp, by decide⟩
  routes := by simp [wrapping, Requirements.FitsWords]
  sizeLimit := by decide

/-- **Counts that wrap around** are taken for the number of the leaves, and the first request that
comes to such a chunk goes out of range. -/
theorem lookup_of_wrapping : wrapping.FitsWords ∧
    (wrapping.chunks.map Chunk.leafCount).sum ≠ wrapping.leaves.length ∧
    ∃ m, ofData wrapping = .ok m ∧ m.lookup (.of "GET" "/a") = .error .outOfRange := by
  have hrun : ((ofData wrapping).toOption.map fun m =>
      match m.lookup (.of "GET" "/a") with
      | .error e => some e
      | .ok _    => none) = some (some .outOfRange) := by decide +kernel
  obtain ⟨m, hm, hrun⟩ := Option.map_eq_some_iff.1 hrun
  refine ⟨fitsWords_wrapping, by decide, m, toOption_eq_some.1 hm, ?_⟩
  cases hlookup : m.lookup (.of "GET" "/a") with
  | error e =>
      rw [hlookup] at hrun
      rw [Option.some.inj hrun]
  | ok res =>
      rw [hlookup] at hrun
      cases hrun

end Signpost.Matcher
