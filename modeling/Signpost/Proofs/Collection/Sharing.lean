import Signpost.Collection.Compile

/-!
# Collections — where the routes are

Every route is either in the index of literal paths, under its path, or at one of the leaves, whose
expression and variables it has.  Wherever routes share a place they are in ascending order, and
the leaves are in the order of their first routes.  So a search that has found a route can stop at
the first one that comes after it.

Both the index and the leaves are built by going through the routes once.  What is said of them is
said of the routes so far (`IsIndex`, `IsShared`), and one more route preserves it.

* `Collection.isIndex_staticPaths`: the index has the literal routes.
* `Collection.isShared_sharedLeaves`: the leaves have the others.
-/

namespace Signpost.Collection

variable {done : List CompiledRoute} {r : CompiledRoute} {id : Nat}

/-- The routes after one more. -/
theorem getElem?_concat {x : CompiledRoute} :
    (done ++ [r])[id]? = some x ↔ done[id]? = some x ∨ id = done.length ∧ x = r := by
  rcases Nat.lt_trichotomy id done.length with h | rfl | h
  · have hne : id ≠ done.length := by omega
    simp [List.getElem?_append_left h, hne]
  · simp [eq_comm]
  · have hne : id ≠ done.length := by omega
    have hnone : done[id]? = none := List.getElem?_eq_none (by omega)
    have hnone' : (done ++ [r])[id]? = none := List.getElem?_eq_none (by simp; omega)
    simp [hnone, hnone', hne]

theorem exists_getElem?_concat {P : CompiledRoute → Prop} :
    (∃ x, (done ++ [r])[id]? = some x ∧ P x) ↔
      (∃ x, done[id]? = some x ∧ P x) ∨ id = done.length ∧ P r := by
  constructor
  · rintro ⟨x, hx, hP⟩
    rcases getElem?_concat.1 hx with hx | ⟨rfl, rfl⟩
    · exact .inl ⟨x, hx, hP⟩
    · exact .inr ⟨rfl, hP⟩
  · rintro (⟨x, hx, hP⟩ | ⟨rfl, hP⟩)
    · exact ⟨x, getElem?_concat.2 (.inl hx), hP⟩
    · exact ⟨r, getElem?_concat.2 (.inr ⟨rfl, rfl⟩), hP⟩

/-- Ascending numbers with one more at their end. -/
theorem pairwise_concat {ids : List Nat} {n : Nat} (h : ids.Pairwise (· < ·))
    (hlt : ∀ id ∈ ids, id < n) : (ids ++ [n]).Pairwise (· < ·) := by
  refine List.pairwise_append.2 ⟨h, List.pairwise_singleton _ _, fun id hid n' hn' => ?_⟩
  obtain rfl := List.mem_singleton.1 hn'
  exact hlt id hid

/-! ### The index of literal paths -/

/-- Whether an index has each literal route under its path, in ascending order. -/
structure IsIndex (done : List CompiledRoute) (d : Dict (List Nat)) : Prop where
  ascending : ∀ path, ((d.get? path).getD []).Pairwise (· < ·)
  mem_iff   : ∀ path id, id ∈ (d.get? path).getD [] ↔
    ∃ r, done[id]? = some r ∧ r.staticPath? = some path

theorem IsIndex.lt_length {d : Dict (List Nat)} (h : IsIndex done d) {path : String}
    (hid : id ∈ (d.get? path).getD []) : id < done.length := by
  obtain ⟨r, hr, -⟩ := (h.mem_iff path id).1 hid
  exact (List.getElem?_eq_some_iff.1 hr).1

theorem IsIndex.insert {d : Dict (List Nat)} (h : IsIndex done d) {literal : String}
    (hr : r.staticPath? = some literal) :
    IsIndex (done ++ [r]) (d.insert literal ((d.get? literal).getD [] ++ [done.length])) := by
  constructor
  · intro path
    rw [Dict.get?_insert]
    split
    case isTrue =>
      exact pairwise_concat (h.ascending literal) fun id hid => h.lt_length hid
    case isFalse => exact h.ascending path
  · intro path id
    rw [exists_getElem?_concat, ← h.mem_iff, hr, Dict.get?_insert]
    split
    case isTrue heq =>
      subst heq
      simp
    case isFalse hne => simp [Ne.symm hne]

theorem IsIndex.skip {d : Dict (List Nat)} (h : IsIndex done d) (hr : r.staticPath? = none) :
    IsIndex (done ++ [r]) d := by
  refine ⟨h.ascending, fun path id => ?_⟩
  rw [exists_getElem?_concat, ← h.mem_iff]
  simp [hr]

theorem isIndex_step {d : Dict (List Nat)} (h : IsIndex done d) (rest : List CompiledRoute) :
    IsIndex (done ++ rest) (staticPaths done.length rest d) := by
  induction rest generalizing done d with
  | nil => rwa [List.append_nil]
  | cons r rest ih =>
      have hlength : (done ++ [r]).length = done.length + 1 := by simp
      rw [staticPaths, List.append_cons, ← hlength]
      cases hr : r.staticPath? with
      | none => exact ih (h.skip hr)
      | some literal => exact ih (h.insert hr)

/-- **The index has the literal routes.** -/
theorem isIndex_staticPaths (compiled : List CompiledRoute) :
    IsIndex compiled (staticPaths 0 compiled .empty) :=
  @isIndex_step [] .empty ⟨fun _ => .nil, by simp⟩ compiled

/-! ### The leaves -/

/-- Whether a leaf holds routes with its expression and its variables, in ascending order, and has
its atoms from one of them. -/
structure SharedLeaf.IsOf (done : List CompiledRoute) (s : SharedLeaf) : Prop where
  nonempty  : s.routes ≠ []
  ascending : s.routes.Pairwise (· < ·)
  routes    : ∀ id ∈ s.routes, ∃ r, done[id]? = some r ∧ r.staticPath? = none ∧
    r.expression = s.expression ∧ r.vars = s.vars
  atoms     : ∃ r ∈ done, r.atoms = s.atoms ∧ r.expression = s.expression ∧ r.vars = s.vars

namespace SharedLeaf.IsOf

variable {s : SharedLeaf}

theorem lt_length (h : s.IsOf done) (hid : id ∈ s.routes) : id < done.length := by
  obtain ⟨r, hr, -⟩ := h.routes id hid
  exact (List.getElem?_eq_some_iff.1 hr).1

theorem concat (h : s.IsOf done) (r : CompiledRoute) : s.IsOf (done ++ [r]) where
  nonempty := h.nonempty
  ascending := h.ascending
  routes id hid := by
    obtain ⟨x, hx, hrest⟩ := h.routes id hid
    exact ⟨x, getElem?_concat.2 (.inl hx), hrest⟩
  atoms := by
    obtain ⟨x, hx, hrest⟩ := h.atoms
    exact ⟨x, List.mem_append_left _ hx, hrest⟩

/-- The leaf of one more route. -/
theorem join (h : s.IsOf done) (hr : r.staticPath? = none)
    (hsame : s.expression = r.expression ∧ s.vars = r.vars) :
    SharedLeaf.IsOf (done ++ [r]) { s with routes := s.routes ++ [done.length] } where
  nonempty := by simp
  ascending := pairwise_concat h.ascending fun id hid => h.lt_length hid
  routes id hid := by
    rcases List.mem_append.1 hid with hid | hid
    · exact (h.concat r).routes id hid
    · obtain rfl := List.mem_singleton.1 hid
      exact ⟨r, getElem?_concat.2 (.inr ⟨rfl, rfl⟩), hr, hsame.1.symm, hsame.2.symm⟩
  atoms := (h.concat r).atoms

/-- A leaf for one more route. -/
theorem new (hr : r.staticPath? = none) :
    SharedLeaf.IsOf (done ++ [r]) ⟨r.expression, r.vars, r.atoms, [done.length]⟩ where
  nonempty := by simp
  ascending := List.pairwise_singleton _ _
  routes id hid := by
    obtain rfl := List.mem_singleton.1 hid
    exact ⟨r, getElem?_concat.2 (.inr ⟨rfl, rfl⟩), hr, rfl, rfl⟩
  atoms := ⟨r, by simp, rfl, rfl, rfl⟩

end SharedLeaf.IsOf

/-- Whether the routes of one leaf come, all of them, after the first route of another one. -/
def SharedLeaf.Before (s s' : SharedLeaf) : Prop :=
  ∀ head ∈ s.routes.head?, ∀ id ∈ s'.routes, head < id

/-- Whether the leaves have the routes that are not literal, in the order of their first routes. -/
structure IsShared (done : List CompiledRoute) (shared : List SharedLeaf) : Prop where
  each    : ∀ s ∈ shared, s.IsOf done
  ordered : shared.Pairwise SharedLeaf.Before
  all     : ∀ id r, done[id]? = some r → r.staticPath? = none → ∃ s ∈ shared, id ∈ s.routes

/-- A route joins the first leaf that has its expression and its variables, or else gets a new one
after all others. -/
theorem share_cases (r : CompiledRoute) (id : Nat) (shared : List SharedLeaf) :
    share r id shared = shared ++ [⟨r.expression, r.vars, r.atoms, [id]⟩] ∨
      ∃ before s after, shared = before ++ s :: after ∧
        (s.expression = r.expression ∧ s.vars = r.vars) ∧
        share r id shared = before ++ { s with routes := s.routes ++ [id] } :: after := by
  induction shared with
  | nil => exact .inl rfl
  | cons s shared ih =>
      unfold share
      split
      case isTrue hsame => exact .inr ⟨[], s, shared, rfl, hsame, rfl⟩
      case isFalse =>
        rcases ih with hnew | ⟨before, s', after, rfl, hsame, hjoin⟩
        · exact .inl (by rw [hnew, List.cons_append])
        · exact .inr ⟨s :: before, s', after, rfl, hsame, by rw [hjoin, List.cons_append]⟩

theorem head?_mem_routes {ids : List Nat} (h : id ∈ ids.head?) : id ∈ ids := by
  cases ids with
  | nil => cases h
  | cons x ids =>
      obtain rfl := Option.some.inj h
      exact List.mem_cons_self

theorem IsShared.skip {shared : List SharedLeaf} (h : IsShared done shared)
    (hr : r.staticPath? ≠ none) : IsShared (done ++ [r]) shared := by
  refine ⟨fun s hs => (h.each s hs).concat r, h.ordered, fun id x hx hdynamic => ?_⟩
  rcases getElem?_concat.1 hx with hx | ⟨-, rfl⟩
  · exact h.all id x hx hdynamic
  · exact absurd hdynamic hr

/-- A route with a leaf of its own comes after all others. -/
theorem IsShared.new {shared : List SharedLeaf} (h : IsShared done shared)
    (hr : r.staticPath? = none) :
    IsShared (done ++ [r]) (shared ++ [⟨r.expression, r.vars, r.atoms, [done.length]⟩]) where
  each := List.forall_mem_append.2
    ⟨fun s hs => (h.each s hs).concat r, by simpa using SharedLeaf.IsOf.new hr⟩
  ordered := by
    refine List.pairwise_append.2 ⟨h.ordered, List.pairwise_singleton _ _, ?_⟩
    intro s hs s' hs' head hhead id hid
    obtain rfl := List.mem_singleton.1 hs'
    obtain rfl := List.mem_singleton.1 hid
    exact (h.each s hs).lt_length (head?_mem_routes hhead)
  all id x hx hdynamic := by
    rcases getElem?_concat.1 hx with hx | ⟨rfl, rfl⟩
    · obtain ⟨s, hs, hid⟩ := h.all id x hx hdynamic
      exact ⟨s, List.mem_append_left _ hs, hid⟩
    · exact ⟨_, List.mem_append_right _ List.mem_cons_self, List.mem_cons_self⟩

/-- A route joins the leaf that has its expression and its variables. -/
theorem IsShared.join {before after : List SharedLeaf} {s : SharedLeaf}
    (h : IsShared done (before ++ s :: after)) (hr : r.staticPath? = none)
    (hsame : s.expression = r.expression ∧ s.vars = r.vars) :
    IsShared (done ++ [r])
      (before ++ { s with routes := s.routes ++ [done.length] } :: after) where
  each := by
    have heach := h.each
    simp only [List.forall_mem_append, List.forall_mem_cons] at heach ⊢
    obtain ⟨hbefore, hs, hafter⟩ := heach
    exact ⟨fun s' hs' => (hbefore s' hs').concat r, hs.join hr hsame,
      fun s' hs' => (hafter s' hs').concat r⟩
  ordered := by
    obtain ⟨hordered, hordered', hacross⟩ := List.pairwise_append.1 h.ordered
    obtain ⟨hfirst, hordered'⟩ := List.pairwise_cons.1 hordered'
    refine List.pairwise_append.2 ⟨hordered, List.pairwise_cons.2 ⟨?_, hordered'⟩, ?_⟩
    · -- the first route of the leaf stays what it was
      intro s' hs' head hhead
      refine hfirst s' hs' head ?_
      have hs := h.each s (List.mem_append_right _ List.mem_cons_self)
      obtain ⟨first, rest, hroutes⟩ := List.exists_cons_of_ne_nil hs.nonempty
      rw [hroutes] at hhead ⊢
      exact hhead
    · -- and the new one comes after the first routes of all leaves before it
      intro s' hs' s'' hs'' head hhead id hid
      rcases List.mem_cons.1 hs'' with rfl | hs''
      · rcases List.mem_append.1 hid with hid | hid
        · exact hacross s' hs' s List.mem_cons_self head hhead id hid
        · obtain rfl := List.mem_singleton.1 hid
          exact (h.each s' (List.mem_append_left _ hs')).lt_length (head?_mem_routes hhead)
      · exact hacross s' hs' s'' (List.mem_cons_of_mem _ hs'') head hhead id hid
  all id x hx hdynamic := by
    rcases getElem?_concat.1 hx with hx | ⟨rfl, rfl⟩
    · obtain ⟨s', hs', hid⟩ := h.all id x hx hdynamic
      rcases List.mem_append.1 hs' with hs' | hs'
      · exact ⟨s', List.mem_append_left _ hs', hid⟩
      · rcases List.mem_cons.1 hs' with rfl | hs'
        · exact ⟨_, List.mem_append_right _ List.mem_cons_self, List.mem_append_left _ hid⟩
        · exact ⟨s', List.mem_append_right _ (List.mem_cons_of_mem _ hs'), hid⟩
    · exact ⟨_, List.mem_append_right _ List.mem_cons_self, by simp⟩

theorem IsShared.share {shared : List SharedLeaf} (h : IsShared done shared)
    (hr : r.staticPath? = none) :
    IsShared (done ++ [r]) (Collection.share r done.length shared) := by
  rcases share_cases r done.length shared with hnew | ⟨before, s, after, rfl, hsame, hjoin⟩
  · rw [hnew]
    exact h.new hr
  · rw [hjoin]
    exact h.join hr hsame

theorem isShared_step {shared : List SharedLeaf} (h : IsShared done shared)
    (rest : List CompiledRoute) :
    IsShared (done ++ rest) (sharedLeaves done.length rest shared) := by
  induction rest generalizing done shared with
  | nil => rwa [List.append_nil]
  | cons r rest ih =>
      have hlength : (done ++ [r]).length = done.length + 1 := by simp
      rw [sharedLeaves, List.append_cons, ← hlength]
      cases hr : r.staticPath? with
      | none => exact ih (h.share hr)
      | some literal => exact ih (h.skip (by simp [hr]))

/-- **The leaves have the routes that are not literal.** -/
theorem isShared_sharedLeaves (compiled : List CompiledRoute) :
    IsShared compiled (sharedLeaves 0 compiled []) :=
  @isShared_step [] [] ⟨by simp, .nil, by simp⟩ compiled

end Signpost.Collection
