import Mathlib.Data.List.DropRight
import Signpost.Collection

/-!
# Collections — groups in groups

A group in a group says no more than one group that says what both of them say.  What that group is
depends on the two groups alone: its base is that of the inner group below that of the outer one,
the inner group wins where only one of them can say something, and what both can add to comes from
the outer group first.

* `Group.join_assoc`: a path below a base, below another one.
* `Group.apply_nest`, `Group.apply_within`: two groups are one, and so are any number of them.
* `Collection.addItem_eq`: what an item adds, group by group.
* `Collection.addItems_flattens`: what the routes of nested groups are stored as.
-/

namespace Signpost

namespace Group

/-! ### Paths below paths -/

section paths

variable {path slashes : List Char}

/-- What comes behind a base for a path. -/
def below (path : List Char) : List Char :=
  if path.head? = some '[' then path
  else if (path.dropWhile (· = '/')).isEmpty then []
  else '/' :: path.dropWhile (· = '/')

theorem joinPath_eq (base path : List Char) :
    joinPath base path = if trimEnd base = [] then path else trimEnd base ++ below path := by
  unfold joinPath below
  by_cases hbase : trimEnd base = []
  · simp [hbase]
  · by_cases hhead : path.head? = some '['
    · simp [hbase, hhead]
    · by_cases hrest : (path.dropWhile (· = '/')).isEmpty <;> simp [hbase, hhead, hrest]

/-- Whether something stands in a path and its last character is no slash. -/
def IsTrimmed (path : List Char) : Prop := ∃ front c, c ≠ '/' ∧ path = front ++ [c]

theorem IsTrimmed.ne_nil (h : IsTrimmed path) : path ≠ [] := by
  obtain ⟨front, c, -, rfl⟩ := h
  simp

theorem IsTrimmed.append (h : IsTrimmed path) (base : List Char) : IsTrimmed (base ++ path) := by
  obtain ⟨front, c, hc, rfl⟩ := h
  exact ⟨base ++ front, c, hc, (List.append_assoc ..).symm⟩

/-- What is left without the slashes at its end, and the slashes. -/
theorem exists_eq_trimEnd_append (path : List Char) :
    ∃ slashes, (∀ c ∈ slashes, c = '/') ∧ path = trimEnd path ++ slashes :=
  ⟨path.rtakeWhile (· = '/'), fun c hc => by simpa using List.mem_rtakeWhile_imp hc,
    List.rdropWhile_append_rtakeWhile.symm⟩

theorem isTrimmed_trimEnd (h : trimEnd path ≠ []) : IsTrimmed (trimEnd path) := by
  refine ⟨_, (trimEnd path).getLast h, ?_, (List.dropLast_append_getLast h).symm⟩
  exact fun heq => List.rdropWhile_last_not (· = '/') path h (decide_eq_true heq)

theorem IsTrimmed.trimEnd_append (h : IsTrimmed path) (hslashes : ∀ c ∈ slashes, c = '/') :
    trimEnd (path ++ slashes) = path := by
  obtain ⟨front, c, hc, rfl⟩ := h
  have hdrop : ∀ c ∈ slashes.reverse, decide (c = '/') = true := fun c h =>
    decide_eq_true (hslashes c (List.mem_reverse.1 h))
  simp [trimEnd, List.dropWhile_append_of_pos hdrop, hc]

theorem below_of_slashes (hslashes : ∀ c ∈ slashes, c = '/') : below slashes = [] := by
  have hhead : slashes.head? ≠ some '[' := fun h =>
    absurd (hslashes _ (List.mem_of_head? h)) (by decide)
  have hdrop : slashes.dropWhile (· = '/') = [] :=
    List.dropWhile_eq_nil_iff.2 fun c hc => decide_eq_true (hslashes c hc)
  rw [below, if_neg hhead, hdrop]
  rfl

/-- The slashes at the begin of a trimmed path are not all of it. -/
theorem IsTrimmed.dropWhile (h : IsTrimmed path) : IsTrimmed (path.dropWhile (· = '/')) := by
  obtain ⟨front, c, hc, rfl⟩ := h
  rw [List.dropWhile_append]
  split
  · exact ⟨[], c, hc, by simp [hc]⟩
  · exact ⟨_, c, hc, rfl⟩

theorem IsTrimmed.below (h : IsTrimmed path) : IsTrimmed (below path) := by
  unfold Group.below
  split
  · exact h
  · rw [if_neg (by simpa using h.dropWhile.ne_nil)]
    exact h.dropWhile.append ['/']

theorem IsTrimmed.below_append (h : IsTrimmed path) (more : List Char) :
    Group.below (path ++ more) = Group.below path ++ more := by
  have hhead : (path ++ more).head? = path.head? := List.head?_append_of_ne_nil _ h.ne_nil
  have hne := h.dropWhile.ne_nil
  have hdrop : (path ++ more).dropWhile (· = '/') = path.dropWhile (· = '/') ++ more := by
    rw [List.dropWhile_append, if_neg (by simpa using hne)]
  unfold Group.below
  rw [hhead, hdrop]
  split
  · rfl
  · rw [if_neg (by simp [hne]), if_neg (by simpa using hne), List.cons_append]

/-- A path goes below two bases one after the other, or below both of them at once. -/
theorem joinPath_assoc (p q x : List Char) :
    joinPath p (joinPath q x) = joinPath (joinPath p q) x := by
  obtain ⟨slashes, hslashes, hq⟩ := exists_eq_trimEnd_append q
  by_cases hp : trimEnd p = []
  · simp only [joinPath_eq, hp, if_true]
  · have hbase := isTrimmed_trimEnd hp
    by_cases hinner : trimEnd q = []
    · -- the inner base is slashes, which neither base keeps
      have hnone : trimEnd (trimEnd p) = trimEnd p := List.rdropWhile_idempotent _ p
      rw [hinner, List.nil_append] at hq
      have hbelow : below q = [] := below_of_slashes (hq ▸ hslashes)
      simp only [joinPath_eq, if_neg hp, if_pos hinner, hbelow, List.append_nil, hnone]
    · have htrimmed := isTrimmed_trimEnd hinner
      have hboth : IsTrimmed (trimEnd p ++ below (trimEnd q)) := htrimmed.below.append _
      have hbelow : below q = below (trimEnd q) ++ slashes := by
        rw [← htrimmed.below_append, ← hq]
      have hjoined : trimEnd (joinPath p q) = trimEnd p ++ below (trimEnd q) := by
        rw [joinPath_eq, if_neg hp, hbelow, ← List.append_assoc]
        exact hboth.trimEnd_append hslashes
      calc joinPath p (joinPath q x)
          = trimEnd p ++ below (trimEnd q ++ below x) := by
            rw [joinPath_eq p, if_neg hp, joinPath_eq q, if_neg hinner]
        _ = trimEnd p ++ below (trimEnd q) ++ below x := by
            rw [htrimmed.below_append, List.append_assoc]
        _ = joinPath (joinPath p q) x := by
            rw [joinPath_eq (joinPath p q), hjoined, if_neg hboth.ne_nil]

end paths

/-- A path below a base, below another base, is that path below the two bases. -/
theorem join_assoc (p q x : String) : join p (join q x) = join (join p q) x := by
  simp only [join, String.toList_ofList, joinPath_assoc]

/-! ### One group for several -/

/-- The group that says what two groups say, one in the other. -/
def nest (outer inner : Group) : Group where
  base        := join outer.base inner.base
  domain      := inner.domain.or outer.domain
  middlewares := outer.middlewares ++ inner.middlewares
  patterns    := inner.patterns.orElse outer.patterns
  defaults    := inner.defaults.orElse outer.defaults
  name        := outer.name ++ inner.name
  schemes     := if inner.schemes.isEmpty then outer.schemes else inner.schemes

/-- **Two groups are one**, for every route. -/
theorem apply_nest (outer inner : Group) (r : Route) :
    (outer.nest inner).apply r = outer.apply (inner.apply r) := by
  have hname : (r.name.map (inner.name ++ ·)).map (outer.name ++ ·) =
      r.name.map (outer.name ++ inner.name ++ ·) := by
    simp [Function.comp_def, String.append_assoc]
  simp only [apply, nest, join_assoc, Dict.orElse_assoc, Option.or_assoc, List.append_assoc, hname]
  by_cases hschemes : r.schemes.isEmpty <;> simp [hschemes]

/-- A group that says nothing. -/
theorem apply_empty (r : Route) : apply {} r = r := by
  have hpath : join "" r.path = r.path := String.ofList_toList
  have hname : r.name.map ("" ++ ·) = r.name := by simp
  have hschemes : (if r.schemes.isEmpty then [] else r.schemes) = r.schemes := by
    split
    · exact (List.isEmpty_iff.1 ‹_›).symm
    · rfl
  simp only [apply, hpath, hname, hschemes, Option.or_none, List.nil_append, Dict.orElse_empty]

/-- What groups around a route make of it, the innermost first. -/
def applyAll (groups : List Group) (r : Route) : Route := groups.foldl (fun r g => g.apply r) r

/-- The group that says what groups say, one in the other, the innermost first. -/
def within (groups : List Group) : Group := groups.foldl (fun inner outer => outer.nest inner) {}

theorem applyAll_append (inner outer : List Group) (r : Route) :
    applyAll (inner ++ outer) r = applyAll outer (applyAll inner r) := List.foldl_append

/-- **Any number of groups are one**, for every route. -/
theorem apply_within (groups : List Group) (r : Route) :
    (within groups).apply r = applyAll groups r := by
  suffices h : ∀ inner : Group, (groups.foldl (fun inner outer => outer.nest inner) inner).apply r =
      applyAll groups (inner.apply r) by
    simpa only [within, apply_empty] using h {}
  induction groups with
  | nil => exact fun inner => rfl
  | cons outer groups ih =>
      intro inner
      rw [List.foldl_cons, ih, apply_nest]
      rfl

end Group

/-! ### What items add -/

mutual

/-- The routes of an item in turn, each with the groups of the item around it, the innermost
first. -/
def Item.steps : Item → List (List Group × Route)
  | .route r       => [([], r)]
  | .group g items => (Item.stepsOfAll items).map fun s => (s.1 ++ [g], s.2)

/-- The routes of items in turn. -/
def Item.stepsOfAll : List Item → List (List Group × Route)
  | []            => []
  | item :: items => item.steps ++ Item.stepsOfAll items

end

namespace Collection

/-- The route of a step inside of further groups. -/
def stored (around : List Group) (s : List Group × Route) : Route :=
  Group.applyAll (s.1 ++ around) s.2

mutual

/-- An item adds its routes behind those that are there, and leaves the open groups. -/
theorem addItem_eq (c : Collection) : (item : Item) →
    c.addItem item =
      { c with routes := c.routes ++ item.steps.map (stored c.openGroups) }
  | .route r => rfl
  | .group g items => by
      have hgroup : (stored c.openGroups) ∘ (fun s => (s.1 ++ [g], s.2)) =
          stored (g :: c.openGroups) := by
        funext s
        simp only [Function.comp_apply, stored, List.append_assoc, List.singleton_append]
      rw [addItem, addItems_eq, Item.steps, List.map_map, hgroup]
      rfl

/-- Items add their routes in turn. -/
theorem addItems_eq (c : Collection) : (items : List Item) →
    c.addItems items =
      { c with routes := c.routes ++ (Item.stepsOfAll items).map (stored c.openGroups) }
  | [] => by simp [addItems, Item.stepsOfAll]
  | item :: items => by
      rw [addItems, addItem_eq, addItems_eq, Item.stepsOfAll]
      simp only [List.map_append, List.append_assoc]

end

/-- A group in a group is one group, whatever is in it. -/
theorem addItem_group_group (c : Collection) (outer inner : Group) (items : List Item) :
    c.addItem (.group outer [.group inner items]) =
      c.addItem (.group (outer.nest inner) items) := by
  have hstored : ∀ s : List Group × Route,
      stored c.openGroups (s.1 ++ [inner] ++ [outer], s.2) =
        stored c.openGroups (s.1 ++ [outer.nest inner], s.2) := by
    intro s
    simp only [stored, Group.applyAll_append]
    exact congrArg _ (Group.apply_nest ..).symm
  rw [addItem_eq, addItem_eq]
  simp only [Item.steps, Item.stepsOfAll, List.append_nil, List.map_map, Function.comp_def, hstored]

/-- **Nested groups flatten.**  A tree of groups and routes stores its routes in the order in which
they are added, each with what its groups say from the innermost one out, and every group leaves the
open groups as they were.  So a group in a group stores what one group does, and the bases of groups
can be joined in any order. -/
theorem addItems_flattens (c : Collection) (items : List Item) :
    (c.addItems items).openGroups = c.openGroups ∧
    (∀ g : Group, (c.addItem (.group g items)).openGroups = c.openGroups) ∧
    (c.addItems items).routes =
      c.routes ++ (Item.stepsOfAll items).map (fun s =>
        (s.1 ++ c.openGroups).foldl (fun r g => g.apply r) s.2) ∧
    (∀ outer inner : Group,
      c.addItem (.group outer [.group inner items]) =
        c.addItem (.group (outer.nest inner) items)) ∧
    ∀ p q x : String, Group.join p (Group.join q x) = Group.join (Group.join p q) x := by
  refine ⟨?_, fun g => ?_, ?_, fun outer inner => c.addItem_group_group outer inner items,
    Group.join_assoc⟩
  · rw [addItems_eq]
  · rw [addItem_eq]
  · rw [addItems_eq]
    rfl

end Collection

end Signpost
