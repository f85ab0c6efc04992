import Signpost.Proofs.Merge.Places
import Signpost.Proofs.Pattern.Written

/-!
# Merging — reading the expression of a tree

The expression of a tree of sound atoms is a part of any larger expression.  Its pieces
(`Tree.pieces`) and its capturing parentheses (`Tree.parens`) come from those of its atoms, and
each marker adds one parenthesis.

* `Tree.isPart_ofFragments`: the expression of a merged tree is a part.
* `Tree.isAt_places`: the parentheses of an atom and of a marker are where the place says, and they
  are counted as the place counts them.
-/

namespace Signpost

open Regex (Piece Paren Reader Node IsAlternatives)

/-! ### The pieces of a tree -/

namespace Tree

mutual

/-- The pieces of the expression of a tree, the last one first. -/
def pieces : Tree → List Piece
  | .leaf _ rest            =>
    Piece.renumberAll (· + (rest.flatMap Atom.captures).length)
      [⟨.group 1 none .empty, 1, true⟩] ++ Atom.allPieces rest
  | .branch shared children =>
    Piece.renumberAll (· + (shared.flatMap Atom.captures).length)
      [⟨(Piece.choice (branches children)).node, (Piece.choice (branches children)).depth + 1,
        true⟩] ++ Atom.allPieces shared

/-- The expressions of trees as alternatives, the last one first. -/
def branches : List Tree → List Piece
  | []             => [.sequence []]
  | [t]            => [.sequence t.pieces]
  | t :: u :: rest =>
    Piece.renumberAll (· + t.groupCount) (branches (u :: rest)) ++ [.sequence t.pieces]

end

mutual

/-- The capturing parentheses of the expression of a tree. -/
def parens : Tree → List Paren
  | .leaf _ rest            =>
    (Atom.allParens rest).map (.append ['(', ')']) ++ [⟨['(', ')'], true⟩]
  | .branch shared children =>
    (Atom.allParens shared).map (.append (['(', '?', ':'] ++ textAll children ++ [')'])) ++
      (parensAll children).map (.append [')'])

def parensAll : List Tree → List Paren
  | []             => []
  | [t]            => t.parens
  | t :: u :: rest =>
    t.parens.map (.append ('|' :: textAll (u :: rest))) ++ parensAll (u :: rest)

end

/-- Whether all atoms of the fragments of a tree have a property. -/
def AllAtoms (P : Atom → Prop) (t : Tree) : Prop := ∀ f ∈ t.fragments, ∀ a ∈ f.1, P a

/-- A branch whose alternatives are read as such. -/
theorem isPart_branch {shared : List Atom} {children : List Tree} {rest last : List Piece}
    (hshared : ∀ a ∈ shared, a.IsSound)
    (hinner : IsAlternatives (textAll children) (groupCountAll children) rest last
      (parensAll children))
    (hbranches : branches children = .sequence last :: rest) :
    Regex.IsPart (branch shared children).text (branch shared children).groupCount
      (branch shared children).pieces (branch shared children).parens := by
  have hpart := (Atom.isPart_expression hshared).append hinner.group
  rw [text, groupCount, pieces, parens, hbranches]
  simpa only [List.append_assoc] using hpart

mutual

/-- **The expression of a tree is a part.** -/
theorem isPart_text : ∀ t : Tree, t.IsForced → t.AllAtoms Atom.IsSound →
    Regex.IsPart t.text t.groupCount t.pieces t.parens
  | .leaf index rest, _, hsound => by
      have hrest : ∀ a ∈ rest, a.IsSound := hsound (rest, index) (by simp [fragments])
      have hpart := (Atom.isPart_expression hrest).append Regex.IsPart.marker
      rw [text, groupCount, pieces, parens]
      exact hpart
  | .branch shared children, hforced, hsound => by
      obtain ⟨hshared, hchildren⟩ := hforced.forall_mem_shared hsound
      obtain ⟨rest, last, hinner, hbranches⟩ :=
        isAlternatives_textAll children hforced.children hchildren
      exact isPart_branch hshared hinner hbranches

theorem isAlternatives_textAll : ∀ ts : List Tree, (∀ t ∈ ts, t.IsForced) →
    (∀ t ∈ ts, t.AllAtoms Atom.IsSound) →
    ∃ rest last, IsAlternatives (textAll ts) (groupCountAll ts) rest last (parensAll ts) ∧
      branches ts = .sequence last :: rest
  | [], _, _ => ⟨[], [], by
      rw [textAll, groupCountAll, parensAll]
      exact .single .nil, by rw [branches]⟩
  | [t], hforced, hsound => by
      have ht := isPart_text t (hforced t List.mem_cons_self) (hsound t List.mem_cons_self)
      refine ⟨[], t.pieces, ?_, by rw [branches]⟩
      rw [textAll, groupCountAll, groupCountAll, parensAll]
      exact .single ht
  | t :: u :: rest, hforced, hsound => by
      obtain ⟨hforced, hforcedRest⟩ := List.forall_mem_cons.1 hforced
      obtain ⟨hsound, hsoundRest⟩ := List.forall_mem_cons.1 hsound
      have ht := isPart_text t hforced hsound
      obtain ⟨before, last, hinner, hbranches⟩ :=
        isAlternatives_textAll (u :: rest) hforcedRest hsoundRest
      have hcons := IsAlternatives.cons ht hinner
      refine ⟨_, _, by rw [textAll, groupCountAll, parensAll]; exact hcons, ?_⟩
      rw [branches, hbranches, Piece.renumberAll, List.map_cons, List.cons_append,
        ← Piece.renumberAll, ← Piece.sequence_renumberAll]

end

variable {strategy : Strategy} {fs : List (List Atom)}

theorem forall_mem_fragments_insertAll {P : Atom → Prop} (h : ∀ f ∈ fs, ∀ a ∈ f, P a) :
    ∀ t ∈ insertAll strategy 0 [] fs, t.AllAtoms P := by
  intro t ht f hf a ha
  have hmem : f ∈ (insertAll strategy 0 [] fs).flatMap fragments :=
    List.mem_flatMap.2 ⟨t, ht, hf⟩
  rw [fragments_insertAll, List.flatMap_nil, List.nil_append] at hmem
  have hfs : f.1 ∈ fs := (List.mem_zipIdx' hmem).2 ▸ List.getElem_mem _
  exact h f.1 hfs a ha

/-- **The expression of a merged tree is a part.** -/
theorem isPart_ofFragments (strategy : Strategy) (h : ∀ f ∈ fs, ∀ a ∈ f, a.IsSound) :
    Regex.IsPart (ofFragments strategy fs).text (ofFragments strategy fs).groupCount
      (ofFragments strategy fs).pieces (ofFragments strategy fs).parens := by
  obtain ⟨rest, last, hinner, hbranches⟩ := isAlternatives_textAll (insertAll strategy 0 [] fs)
    (isForced_insertAll strategy 0 [] fs (by simp)) (forall_mem_fragments_insertAll h)
  exact isPart_branch (by simp) hinner hbranches

end Tree

/-! ### Where the parentheses are -/

/-- Whether the parentheses of an atom are among those of the whole, at the number of the spot. -/
def Spot.IsAt (whole : List Paren) (s : Spot) : Prop :=
  (whole.drop s.groups).take s.count = s.atom.parens.map (.append s.after)

/-- Whether the parentheses of atoms and marker are among those of the whole. -/
structure Place.IsAt (whole : List Paren) (p : Place) : Prop where
  marker : (whole[p.groups]?).map Paren.text = some ('(' :: ')' :: p.after)
  spots  : ∀ s ∈ p.spots, s.IsAt whole

theorem map_append_append (more after : List Char) (ps : List Paren) :
    (ps.map (Paren.append more)).map (Paren.append after) =
      ps.map (Paren.append (more ++ after)) := by
  rw [List.map_map]
  refine List.map_congr_left fun p _ => ?_
  simp [Paren.append]

theorem Atom.isAt_spots {groups : Nat} {after : List Char} {as : List Atom}
    (h : ∀ a ∈ as, a.IsSound) {pre post : List Paren} (hpre : pre.length = groups) :
    ∀ s ∈ spots groups after as,
      s.IsAt (pre ++ (allParens as).map (Paren.append after) ++ post) := by
  induction as generalizing groups pre with
  | nil => simp [spots]
  | cons a as ih =>
      obtain ⟨ha, has⟩ := List.forall_mem_cons.1 h
      have hcount : (a.parens.map (Paren.append (expression as ++ after))).length =
          a.captures.length := by
        rw [List.length_map, ha.part.count]
      have hparens : (allParens (a :: as)).map (Paren.append after) =
          a.parens.map (Paren.append (expression as ++ after)) ++
            (allParens as).map (Paren.append after) := by
        rw [allParens, List.map_append, map_append_append]
      rw [hparens, ← List.append_assoc pre]
      refine List.forall_mem_cons.2 ⟨?_, ih has (by rw [List.length_append, hcount, hpre])⟩
      rw [Spot.IsAt, List.append_assoc, List.append_assoc, List.drop_left' hpre]
      exact List.take_left' hcount

namespace Tree

theorem length_parens {t : Tree} (hforced : t.IsForced) (hsound : t.AllAtoms Atom.IsSound) :
    t.parens.length = t.groupCount :=
  (isPart_text t hforced hsound).count

/-- The places below a branch. -/
theorem isAt_places_branch {groups : Nat} {after : List Char} {shared : List Atom}
    {children : List Tree} {pre post : List Paren} (hshared : ∀ a ∈ shared, a.IsSound)
    (hpre : pre.length = groups)
    (hinner : ∀ pre' : List Paren,
      pre'.length = groups + (shared.flatMap Atom.captures).length →
      ∀ p ∈ placesAll (groups + (shared.flatMap Atom.captures).length) (')' :: after) children,
        p.IsAt (pre' ++ (parensAll children).map (Paren.append (')' :: after)) ++ post)) :
    ∀ p ∈ (branch shared children).places groups after,
      p.IsAt (pre ++ (branch shared children).parens.map (Paren.append after) ++ post) := by
  intro p hp
  rw [places] at hp
  obtain ⟨q, hq, rfl⟩ := List.mem_map.1 hp
  have hlength : ((Atom.allParens shared).map (Paren.append
      (['(', '?', ':'] ++ textAll children ++ ')' :: after))).length =
        (shared.flatMap Atom.captures).length := by
    rw [List.length_map, (Atom.isPart_expression hshared).count]
  have hparens : (branch shared children).parens.map (Paren.append after) =
      (Atom.allParens shared).map
          (Paren.append (['(', '?', ':'] ++ textAll children ++ ')' :: after)) ++
        (parensAll children).map (Paren.append (')' :: after)) := by
    rw [parens, List.map_append, map_append_append, map_append_append]
    simp
  rw [hparens]
  constructor
  · rw [← List.append_assoc pre]
    exact (hinner _ (by rw [List.length_append, hlength, hpre]) q hq).marker
  · intro s hs
    rcases List.mem_append.1 hs with hs | hs
    · rw [← List.append_assoc pre, List.append_assoc]
      exact Atom.isAt_spots hshared hpre s hs
    · rw [← List.append_assoc pre]
      exact (hinner _ (by rw [List.length_append, hlength, hpre]) q hq).spots s hs

mutual

/-- **Parentheses are where the places say**, and are counted as the places count them. -/
theorem isAt_places (groups : Nat) (after : List Char) (pre post : List Paren)
    (hpre : pre.length = groups) : ∀ t : Tree, t.IsForced → t.AllAtoms Atom.IsSound →
    ∀ p ∈ t.places groups after, p.IsAt (pre ++ t.parens.map (Paren.append after) ++ post)
  | .leaf index rest, _, hsound => by
      have hrest : ∀ a ∈ rest, a.IsSound := hsound (rest, index) (by simp [fragments])
      have hlength : ((Atom.allParens rest).map (Paren.append ('(' :: ')' :: after))).length =
          (rest.flatMap Atom.captures).length := by
        rw [List.length_map, (Atom.isPart_expression hrest).count]
      have hparens : (leaf index rest).parens.map (Paren.append after) =
          (Atom.allParens rest).map (Paren.append ('(' :: ')' :: after)) ++
            [⟨'(' :: ')' :: after, true⟩] := by
        rw [parens, List.map_append, map_append_append]
        rfl
      intro p hp
      rw [places, List.mem_singleton] at hp
      subst hp
      rw [hparens]
      refine ⟨?_, ?_⟩
      · have hindex : groups + (rest.flatMap Atom.captures).length =
            (pre ++ (Atom.allParens rest).map (Paren.append ('(' :: ')' :: after))).length := by
          rw [List.length_append, hlength, hpre]
        rw [hindex, ← List.append_assoc, List.append_assoc,
          List.getElem?_append_right (Nat.le_refl _), Nat.sub_self]
        rfl
      · rw [← List.append_assoc, List.append_assoc]
        exact Atom.isAt_spots hrest hpre
  | .branch shared children, hforced, hsound => by
      obtain ⟨hshared, hchildren⟩ := hforced.forall_mem_shared hsound
      exact isAt_places_branch hshared hpre fun pre' hpre' =>
        isAt_placesAll _ (')' :: after) pre' post hpre' children hforced.children hchildren

theorem isAt_placesAll (groups : Nat) (after : List Char) (pre post : List Paren)
    (hpre : pre.length = groups) : ∀ ts : List Tree, (∀ t ∈ ts, t.IsForced) →
    (∀ t ∈ ts, t.AllAtoms Atom.IsSound) →
    ∀ p ∈ placesAll groups after ts,
      p.IsAt (pre ++ (parensAll ts).map (Paren.append after) ++ post)
  | [], _, _ => by simp [placesAll]
  | [t], hforced, hsound => by
      rw [placesAll, parensAll]
      exact isAt_places groups after pre post hpre t (hforced t List.mem_cons_self)
        (hsound t List.mem_cons_self)
  | t :: u :: rest, hforced, hsound => by
      obtain ⟨hforced, hforcedRest⟩ := List.forall_mem_cons.1 hforced
      obtain ⟨hsound, hsoundRest⟩ := List.forall_mem_cons.1 hsound
      have hparens : (parensAll (t :: u :: rest)).map (Paren.append after) =
          t.parens.map (Paren.append ('|' :: (textAll (u :: rest) ++ after))) ++
            (parensAll (u :: rest)).map (Paren.append after) := by
        rw [parensAll, List.map_append, map_append_append]
        rfl
      intro p hp
      rw [placesAll] at hp
      rw [hparens]
      rcases List.mem_append.1 hp with hp | hp
      · rw [← List.append_assoc, List.append_assoc]
        exact isAt_places groups _ pre _ hpre t hforced hsound p hp
      · rw [← List.append_assoc]
        refine isAt_placesAll _ after _ post ?_ (u :: rest) hforcedRest hsoundRest p hp
        rw [List.length_append, List.length_map, hpre, length_parens hforced hsound]

end

end Tree

end Signpost
