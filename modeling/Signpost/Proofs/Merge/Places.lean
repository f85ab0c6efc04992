import Signpost.Merge.Render
import Signpost.Proofs.Merge.Shape

/-!
# Merging — where leaves are written

The expression of a tree, leaf by leaf.  A leaf has a place in it (`Place`): the atoms of its
fragment, each with the number of groups before it and the text after it (`Spot`), and the marker
behind them.  What branches share is written once, in the places of all leaves below it.

* `Tree.render_eq`: the text, the number of groups and the layouts of an expression, by the
  places of the leaves.
* `Tree.map_fragment_places`: the places hold the fragments of the tree.
* `Tree.isNumbered_places`: no two atoms of a place have a group in common, and no marker is a
  group of an atom or another marker.
-/

namespace Signpost

/-- An atom where it is written: the number of groups before it, and the text after it. -/
structure Spot where
  atom   : Atom
  groups : Nat
  after  : List Char

/-- A leaf where it is written: its atoms, and its marker after a number of groups and in front of
a text. -/
structure Place where
  index  : Nat
  spots  : List Spot
  groups : Nat
  after  : List Char

namespace Spot

/-- The number of groups in the atom. -/
def count (s : Spot) : Nat := s.atom.captures.length

/-- The variables of the atom, with their groups. -/
def bindings (s : Spot) : List Binding := Binding.ofCaptures s.groups s.atom.captures

end Spot

/-- Atoms, one after the other, after a number of groups and in front of a text. -/
def Atom.spots (groups : Nat) (after : List Char) : List Atom → List Spot
  | []      => []
  | a :: as => ⟨a, groups, expression as ++ after⟩ :: spots (groups + a.captures.length) after as

namespace Place

/-- The place with atoms in front of its own. -/
def behind (spots : List Spot) (p : Place) : Place := { p with spots := spots ++ p.spots }

/-- The fragment of the leaf. -/
def fragment (p : Place) : List Atom × Nat := (p.spots.map Spot.atom, p.index)

/-- The variables of the leaf, with their groups. -/
def bindings (p : Place) : List Binding := p.spots.flatMap Spot.bindings

/-- The layout of the leaf after bindings of what is around it. -/
def layout (bindings : List Binding) (p : Place) : Layout :=
  ⟨p.groups + 1, bindings ++ p.bindings⟩

end Place

theorem Binding.ofCaptures_append (groups : Nat) (cs ds : List (Option String)) :
    ofCaptures groups (cs ++ ds) = ofCaptures groups cs ++ ofCaptures (groups + cs.length) ds := by
  induction cs generalizing groups with
  | nil => rfl
  | cons c cs ih =>
      have hlength : groups + (c :: cs).length = groups + 1 + cs.length := by
        rw [List.length_cons]
        omega
      cases c with
      | none => rw [List.cons_append, ofCaptures, ofCaptures, ih, hlength]
      | some name => rw [List.cons_append, ofCaptures, ofCaptures, ih, hlength, List.cons_append]

namespace Atom

theorem map_atom_spots (groups : Nat) (after : List Char) (as : List Atom) :
    (spots groups after as).map Spot.atom = as := by
  induction as generalizing groups with
  | nil => rfl
  | cons a as ih => rw [spots, List.map_cons, ih]

theorem flatMap_bindings_spots (groups : Nat) (after : List Char) (as : List Atom) :
    (spots groups after as).flatMap Spot.bindings =
      Binding.ofCaptures groups (as.flatMap captures) := by
  induction as generalizing groups with
  | nil => rfl
  | cons a as ih =>
      rw [spots, List.flatMap_cons, ih, List.flatMap_cons, Binding.ofCaptures_append]
      rfl

end Atom

/-! ### The expression of a tree -/

namespace Tree

mutual

/-- The text of the expression of a tree. -/
def text : Tree → List Char
  | .leaf _ rest            => Atom.expression rest ++ ['(', ')']
  | .branch shared children =>
    Atom.expression shared ++ ['(', '?', ':'] ++ textAll children ++ [')']

/-- The text of the expressions of trees, as alternatives. -/
def textAll : List Tree → List Char
  | []             => []
  | [t]            => t.text
  | t :: u :: rest => t.text ++ '|' :: textAll (u :: rest)

end

mutual

/-- The number of groups in the expression of a tree. -/
def groupCount : Tree → Nat
  | .leaf _ rest            => (rest.flatMap Atom.captures).length + 1
  | .branch shared children => (shared.flatMap Atom.captures).length + groupCountAll children

def groupCountAll : List Tree → Nat
  | []        => 0
  | t :: rest => t.groupCount + groupCountAll rest

end

mutual

/-- The places of the leaves of a tree, from left to right, where its expression stands after a
number of groups and in front of a text. -/
def places (groups : Nat) (after : List Char) : Tree → List Place
  | .leaf index rest        =>
    [⟨index, Atom.spots groups ('(' :: ')' :: after) rest,
      groups + (rest.flatMap Atom.captures).length, after⟩]
  | .branch shared children =>
    (placesAll (groups + (shared.flatMap Atom.captures).length) (')' :: after) children).map
      (Place.behind
        (Atom.spots groups (['(', '?', ':'] ++ textAll children ++ ')' :: after) shared))

/-- The places of the leaves of alternatives. -/
def placesAll (groups : Nat) (after : List Char) : List Tree → List Place
  | []             => []
  | [t]            => t.places groups after
  | t :: u :: rest =>
    t.places groups ('|' :: (textAll (u :: rest) ++ after)) ++
      placesAll (groups + t.groupCount) after (u :: rest)

end

theorem map_layout_behind (bindings : List Binding) (spots : List Spot) (ps : List Place) :
    (ps.map (Place.behind spots)).map (Place.layout bindings) =
      ps.map (Place.layout (bindings ++ spots.flatMap Spot.bindings)) := by
  rw [List.map_map]
  refine List.map_congr_left fun p _ => ?_
  simp [Place.behind, Place.layout, Place.bindings]

mutual

/-- **The expression of a tree**, by the places of its leaves. -/
theorem render_eq (groups : Nat) (bindings : List Binding) (after : List Char) :
    ∀ t : Tree, t.render groups bindings =
      ⟨t.text, groups + t.groupCount, (t.places groups after).map (Place.layout bindings)⟩
  | .leaf index rest => by
      rw [render, text, groupCount, places, List.map_singleton, Place.layout, Place.bindings,
        Atom.flatMap_bindings_spots, Nat.add_assoc]
  | .branch shared children => by
      rw [render, text, groupCount, places, map_layout_behind, Atom.flatMap_bindings_spots,
        ← Nat.add_assoc]
      simp only [renderAll_eq _ _ (')' :: after) children]

theorem renderAll_eq (groups : Nat) (bindings : List Binding) (after : List Char) :
    ∀ ts : List Tree, renderAll groups bindings ts =
      ⟨textAll ts, groups + groupCountAll ts,
        (placesAll groups after ts).map (Place.layout bindings)⟩
  | [] => rfl
  | [t] => by
      rw [renderAll, render_eq groups bindings after t]
      rfl
  | t :: u :: rest => by
      have hrest := renderAll_eq (groups + t.groupCount) bindings after (u :: rest)
      have ht := render_eq groups bindings ('|' :: (textAll (u :: rest) ++ after)) t
      rw [renderAll, ht]
      · simp only [hrest, textAll, placesAll, groupCountAll, List.map_append, Nat.add_assoc]
      · simp

end

mutual

/-- **The places of a tree hold its fragments.** -/
theorem map_fragment_places (groups : Nat) (after : List Char) :
    ∀ t : Tree, (t.places groups after).map Place.fragment = t.fragments
  | .leaf index rest => by
      rw [places, fragments, List.map_singleton, Place.fragment, Atom.map_atom_spots]
  | .branch shared children => by
      have hinner := map_fragment_placesAll (groups + (shared.flatMap Atom.captures).length)
        (')' :: after) children
      rw [places, fragments, ← hinner, List.map_map, List.map_map]
      refine List.map_congr_left fun p _ => ?_
      simp [Place.behind, Place.fragment, Atom.map_atom_spots]

theorem map_fragment_placesAll (groups : Nat) (after : List Char) :
    ∀ ts : List Tree, (placesAll groups after ts).map Place.fragment = ts.flatMap fragments
  | [] => rfl
  | [t] => by
      rw [placesAll, map_fragment_places groups after t, List.flatMap_singleton]
  | t :: u :: rest => by
      rw [placesAll, List.map_append, map_fragment_places groups _ t,
        map_fragment_placesAll _ after (u :: rest)]
      exact List.flatMap_cons.symm

end

/-! ### The numbers of the groups -/

/-- Whether the atoms and the markers of places have numbers of their own, above `lo` and up to
`hi`: the atoms of each place one after the other and before its marker, and every marker after
those before it and outside of all atoms. -/
structure IsNumbered (lo hi : Nat) (ps : List Place) : Prop where
  marker  : ∀ p ∈ ps, lo ≤ p.groups ∧ p.groups < hi
  spot    : ∀ p ∈ ps, ∀ s ∈ p.spots, lo ≤ s.groups ∧ s.groups + s.count ≤ p.groups
  spots   : ∀ p ∈ ps, p.spots.Pairwise fun s s' => s.groups + s.count ≤ s'.groups
  apart   : ∀ p ∈ ps, ∀ q ∈ ps, ∀ s ∈ q.spots,
    p.groups < s.groups ∨ s.groups + s.count ≤ p.groups
  markers : ps.Pairwise fun p q => p.groups < q.groups

end Tree

theorem Atom.mem_spots {groups : Nat} {after : List Char} {as : List Atom} {s : Spot}
    (h : s ∈ spots groups after as) :
    groups ≤ s.groups ∧ s.groups + s.count ≤ groups + (as.flatMap captures).length := by
  induction as generalizing groups with
  | nil => cases h
  | cons a as ih =>
      rw [List.flatMap_cons, List.length_append]
      rcases List.mem_cons.1 h with rfl | h
      · simp only [Spot.count]
        omega
      · have := ih h
        omega

theorem Atom.pairwise_spots (groups : Nat) (after : List Char) (as : List Atom) :
    (spots groups after as).Pairwise fun s s' => s.groups + s.count ≤ s'.groups := by
  induction as generalizing groups with
  | nil => exact .nil
  | cons a as ih => exact .cons (fun s hs => (mem_spots hs).1) (ih _)

namespace Tree

namespace IsNumbered

variable {lo mid hi : Nat} {ps qs : List Place}

/-- No two places have the same marker. -/
theorem eq_of_groups_eq (h : IsNumbered lo hi ps) {p q : Place} (hp : p ∈ ps) (hq : q ∈ ps)
    (heq : p.groups = q.groups) : p = q := by
  obtain ⟨i, hi, rfl⟩ := List.mem_iff_getElem.1 hp
  obtain ⟨j, hj, rfl⟩ := List.mem_iff_getElem.1 hq
  have ascending := List.pairwise_iff_getElem.1 h.markers
  rcases Nat.lt_trichotomy i j with hlt | rfl | hlt
  · exact absurd heq (Nat.ne_of_lt (ascending i j hi hj hlt))
  · rfl
  · exact absurd heq.symm (Nat.ne_of_lt (ascending j i hj hi hlt))

/-- The places below a branch, with what the branch shares. -/
theorem behind (after : List Char) (shared : List Atom)
    (h : IsNumbered (lo + (shared.flatMap Atom.captures).length) hi ps) :
    IsNumbered lo hi (ps.map (Place.behind (Atom.spots lo after shared))) where
  marker := by
    intro p hmem
    obtain ⟨p, hp, rfl⟩ := List.mem_map.1 hmem
    obtain ⟨hle, hlt⟩ := h.marker p hp
    exact ⟨Nat.le_trans (Nat.le_add_right _ _) hle, hlt⟩
  spot := by
    intro p hmem s hs
    obtain ⟨p, hp, rfl⟩ := List.mem_map.1 hmem
    rcases List.mem_append.1 hs with hs | hs
    · obtain ⟨hlo, hshared⟩ := Atom.mem_spots hs
      exact ⟨hlo, Nat.le_trans hshared (h.marker p hp).1⟩
    · obtain ⟨hlo, hmarker⟩ := h.spot p hp s hs
      exact ⟨Nat.le_trans (Nat.le_add_right _ _) hlo, hmarker⟩
  spots := by
    intro p hmem
    obtain ⟨p, hp, rfl⟩ := List.mem_map.1 hmem
    refine List.pairwise_append.2 ⟨Atom.pairwise_spots .., h.spots p hp, fun s hs s' hs' => ?_⟩
    exact Nat.le_trans (Atom.mem_spots hs).2 (h.spot p hp s' hs').1
  apart := by
    intro p hmem q hmem' s hs
    obtain ⟨p, hp, rfl⟩ := List.mem_map.1 hmem
    obtain ⟨q, hq, rfl⟩ := List.mem_map.1 hmem'
    rcases List.mem_append.1 hs with hs | hs
    · exact .inr (Nat.le_trans (Atom.mem_spots hs).2 (h.marker p hp).1)
    · exact h.apart p hp q hq s hs
  markers := List.pairwise_map.2 h.markers

/-- The places of alternatives. -/
theorem append (hlo : lo ≤ mid) (hhi : mid ≤ hi) (hps : IsNumbered lo mid ps)
    (hqs : IsNumbered mid hi qs) : IsNumbered lo hi (ps ++ qs) where
  marker := by
    intro p hp
    rcases List.mem_append.1 hp with hp | hp
    · obtain ⟨hle, hlt⟩ := hps.marker p hp
      exact ⟨hle, Nat.lt_of_lt_of_le hlt hhi⟩
    · obtain ⟨hle, hlt⟩ := hqs.marker p hp
      exact ⟨Nat.le_trans hlo hle, hlt⟩
  spot := by
    intro p hp s hs
    rcases List.mem_append.1 hp with hp | hp
    · exact hps.spot p hp s hs
    · obtain ⟨hle, hmarker⟩ := hqs.spot p hp s hs
      exact ⟨Nat.le_trans hlo hle, hmarker⟩
  spots := by
    intro p hp
    rcases List.mem_append.1 hp with hp | hp
    · exact hps.spots p hp
    · exact hqs.spots p hp
  apart := by
    intro p hp q hq s hs
    rcases List.mem_append.1 hp with hp | hp <;> rcases List.mem_append.1 hq with hq | hq
    · exact hps.apart p hp q hq s hs
    · exact .inl (Nat.lt_of_lt_of_le (hps.marker p hp).2 (hqs.spot q hq s hs).1)
    · have hbefore := Nat.lt_of_le_of_lt (hps.spot q hq s hs).2 (hps.marker q hq).2
      exact .inr (Nat.le_of_lt (Nat.lt_of_lt_of_le hbefore (hqs.marker p hp).1))
    · exact hqs.apart p hp q hq s hs
  markers := List.pairwise_append.2 ⟨hps.markers, hqs.markers, fun p hp q hq =>
    Nat.lt_of_lt_of_le (hps.marker p hp).2 (hqs.marker q hq).1⟩

end IsNumbered

mutual

/-- **The places of a tree have numbers of their own.** -/
theorem isNumbered_places (groups : Nat) (after : List Char) :
    ∀ t : Tree, IsNumbered groups (groups + t.groupCount) (t.places groups after)
  | .leaf index rest => by
      have hspot : ∀ s ∈ Atom.spots groups ('(' :: ')' :: after) rest,
          groups ≤ s.groups ∧ s.groups + s.count ≤ groups + (rest.flatMap Atom.captures).length :=
        fun s hs => Atom.mem_spots hs
      rw [places, groupCount]
      constructor
      · simp only [List.mem_singleton, forall_eq]
        omega
      · simpa only [List.mem_singleton, forall_eq] using hspot
      · simpa only [List.mem_singleton, forall_eq] using Atom.pairwise_spots ..
      · simp only [List.mem_singleton, forall_eq]
        exact fun s hs => .inr (hspot s hs).2
      · exact List.pairwise_singleton ..
  | .branch shared children => by
      have hinner := isNumbered_placesAll (groups + (shared.flatMap Atom.captures).length)
        (')' :: after) children
      rw [places, groupCount, ← Nat.add_assoc]
      exact hinner.behind _ shared

theorem isNumbered_placesAll (groups : Nat) (after : List Char) :
    ∀ ts : List Tree,
      IsNumbered groups (groups + groupCountAll ts) (placesAll groups after ts)
  | [] => ⟨by simp [placesAll], by simp [placesAll], by simp [placesAll], by simp [placesAll],
      .nil⟩
  | [t] => isNumbered_places groups after t
  | t :: u :: rest => by
      have ht := isNumbered_places groups ('|' :: (textAll (u :: rest) ++ after)) t
      have hrest := isNumbered_placesAll (groups + t.groupCount) after (u :: rest)
      rw [Nat.add_assoc] at hrest
      exact ht.append (Nat.le_add_right _ _) (by simp only [groupCountAll]; omega) hrest

end

end Tree

end Signpost
