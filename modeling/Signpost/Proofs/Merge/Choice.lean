import Mathlib.Data.List.Basic
import Mathlib.Data.List.Induction
import Mathlib.Data.List.TakeWhile
import Signpost.Proofs.Merge.Shape

/-!
# Merging — the choice of an alternative

Atoms as an ordered matcher with backtracking.  An atom matches at a position of the text in a
list of ways, the preferred one first; a list of atoms tries the ways of its first atom in turn,
each with all that the rest makes of it (`Atom.runs`).  A tree tries its alternatives from left to
right, after what they share (`Tree.runs`).

* `Tree.runs_eq_fragments`: when whatever is forced matches in at most one way, the runs of a
  forced tree are the runs of its fragments, one fragment after the other.
* `Tree.fullMatch_ofFragments`: a merged tree matches a text as a whole when one of its
  fragments does, and its first match is that of the first fragment that does.
-/

namespace Signpost

variable {α : Type}

/-- The ways in which an atom matches at a position, the preferred one first: what there is to
record of each, and the position after it. -/
abbrev Ways (α : Type) := Atom → Nat → List (α × Nat)

/-- A way to match a list of atoms: the record of each of them, and the position at the end. -/
structure Run (α : Type) where
  records : List α
  stop    : Nat
  deriving DecidableEq, Repr

/-- The run with records in front of its own. -/
def Run.after (records : List α) (r : Run α) : Run α := ⟨records ++ r.records, r.stop⟩

/-- The ways to match a list of atoms at a position, the preferred one first. -/
def Atom.runs (w : Ways α) : List Atom → Nat → List (Run α)
  | [], pos      => [⟨[], pos⟩]
  | a :: as, pos => (w a pos).flatMap fun o => (runs w as o.2).map (Run.after [o.1])

/-- The ways to match a tree at a position, the preferred one first, each with the index of its
leaf. -/
def Tree.runs (w : Ways α) : Tree → Nat → List (Nat × Run α)
  | .leaf index rest, pos         => (Atom.runs w rest pos).map fun r => (index, r)
  | .branch shared children, pos =>
    (Atom.runs w shared pos).flatMap fun r =>
      children.flatMap fun c => (c.runs w r.stop).map fun m => (m.1, m.2.after r.records)

/-! ### Forced atoms match in at most one way -/

/-- Whether the ways leave no choice where an atom may be shared: none for a character, and none
for a segment with a slash after it. -/
def Ways.Decide (w : Ways α) : Atom → Prop
  | a@(.char _)         => ∀ pos, (w a pos).length ≤ 1
  | a@(.group _ _ true) => ∀ pos, (Atom.runs w [a, .char '/'] pos).length ≤ 1
  | .group _ _ false    => True

theorem Run.after_nil : Run.after ([] : List α) = id := rfl

/-- At most one outcome of each of at most one. -/
theorem length_flatMap_le_one {β γ : Type} {l : List β} {f : β → List γ} (hl : l.length ≤ 1)
    (hf : ∀ b ∈ l, (f b).length ≤ 1) : (l.flatMap f).length ≤ 1 := by
  match l, hl with
  | [], _  => simp
  | [b], _ => simpa using hf b (List.mem_singleton_self b)

/-- What has at most one outcome may come before a choice or be part of each of its sides. -/
theorem flatMap_comm_of_length_le_one {β γ δ : Type} {l : List β} (hl : l.length ≤ 1)
    (m : List γ) (f : β → γ → List δ) :
    (l.flatMap fun b => m.flatMap fun c => f b c) =
      m.flatMap fun c => l.flatMap fun b => f b c := by
  match l, hl with
  | [], _  => simp
  | [b], _ => simp

theorem Atom.runs_append (w : Ways α) (as bs : List Atom) (pos : Nat) :
    runs w (as ++ bs) pos =
      (runs w as pos).flatMap fun r => (runs w bs r.stop).map (Run.after r.records) := by
  induction as generalizing pos with
  | nil => simp [runs, Run.after_nil]
  | cons a as ih =>
      simp only [List.cons_append, runs, ih, List.map_flatMap, List.flatMap_assoc,
        List.flatMap_map, List.map_map]
      rfl

theorem Atom.length_runs_le_one {w : Ways α} {as : List Atom} (forced : AreForced as)
    (decided : ∀ a ∈ as, w.Decide a) (pos : Nat) : (runs w as pos).length ≤ 1 := by
  induction as using List.twoStepInduction generalizing pos with
  | nil => simp [runs]
  | singleton a =>
      cases a with
      | char c =>
          refine length_flatMap_le_one (decided _ List.mem_cons_self pos) fun o _ => ?_
          simp [runs]
      | group e captures isSegment => simp [AreForced] at forced
  | cons_cons a b as ih₂ ih₁ =>
      have hb : ∀ a' ∈ b :: as, w.Decide a' := fun a' h => decided a' (List.mem_cons_of_mem _ h)
      cases a with
      | char c =>
          refine length_flatMap_le_one (decided _ List.mem_cons_self pos) fun o _ => ?_
          rw [List.length_map]
          exact ih₁ b forced hb o.2
      | group e captures isSegment =>
          obtain ⟨rfl, hd, rest⟩ := forced
          obtain rfl : b = .char '/' := by simpa using hd
          -- the segment and the slash after it are one step
          rw [show Atom.group e captures true :: .char '/' :: as =
            [.group e captures true, .char '/'] ++ as from rfl, runs_append]
          refine length_flatMap_le_one (decided _ List.mem_cons_self pos) fun r _ => ?_
          rw [List.length_map]
          exact ih₂ rest (fun a' h => hb a' (List.mem_cons_of_mem _ h)) r.stop

/-! ### The runs of a tree -/

namespace Tree

/-- **The runs of a forced tree** are those of its fragments, in their order. -/
theorem runs_eq_fragments {w : Ways α} {t : Tree} (forced : t.IsForced)
    (decided : ∀ f ∈ t.fragments, ∀ a ∈ f.1, w.Decide a) (pos : Nat) :
    t.runs w pos =
      t.fragments.flatMap fun f => (Atom.runs w f.1 pos).map fun r => (f.2, r) := by
  induction t using Tree.induct generalizing pos with
  | leaf index rest => simp [runs, fragments]
  | branch shared children ih =>
      obtain ⟨own, below⟩ := forced.forall_mem_shared decided
      have inner : ∀ pos, (children.flatMap fun c => c.runs w pos) =
          (children.flatMap fragments).flatMap fun f =>
            (Atom.runs w f.1 pos).map fun r => (f.2, r) := by
        intro pos
        rw [List.flatMap_assoc]
        exact List.flatMap_congr fun c hc => ih c hc (forced.children c hc) (below c hc) pos
      have single : (Atom.runs w shared pos).length ≤ 1 :=
        Atom.length_runs_le_one forced.shared own pos
      simp only [runs, fragments, List.flatMap_map, ← List.map_flatMap, inner]
      simp only [Atom.runs_append, List.map_flatMap, List.map_map]
      exact flatMap_comm_of_length_le_one single (children.flatMap fragments) fun r f =>
        (Atom.runs w f.1 r.stop).map fun r' => (f.2, r'.after r.records)

end Tree

/-! ### Matching a text as a whole -/

/-- How many characters of the text an atom can match at a position, the preferred number first.
A segment takes as many characters other than slashes as it can get, and at least one; what
another group takes is up to `others`. -/
def Atom.lengths (others : Atom → List Char → Nat → List Nat) (text : List Char) (pos : Nat) :
    Atom → List Nat
  | .char c              => if text[pos]? = some c then [1] else []
  | .group _ _ true      =>
    (List.range ((text.drop pos).takeWhile (· ≠ '/')).length).reverse.map (· + 1)
  | a@(.group _ _ false) => others a text pos

/-- The ways of the atoms in a text, which record the number of characters that each atom takes. -/
def Ways.ofText (others : Atom → List Char → Nat → List Nat) (text : List Char) : Ways Nat :=
  fun a pos => (a.lengths others text pos).map fun n => (n, pos + n)

/-- The first match of a text as a whole: how many characters each atom takes. -/
def Atom.fullMatch? (others : Atom → List Char → Nat → List Nat) (text : List Char)
    (as : List Atom) : Option (List Nat) :=
  ((Atom.runs (.ofText others text) as 0).find? fun r => r.stop = text.length).map Run.records

/-- The first match of a text as a whole, in the order of the alternatives: the index of the leaf,
and how many characters each atom on the way to it takes. -/
def Tree.fullMatch? (others : Atom → List Char → Nat → List Nat) (text : List Char) (t : Tree) :
    Option (Nat × List Nat) :=
  ((t.runs (.ofText others text) 0).find? fun m => m.2.stop = text.length).map fun m =>
    (m.1, m.2.records)

/-- There is no slash inside a segment. -/
theorem getElem?_ne_slash {text : List Char} {pos n : Nat}
    (h : n < ((text.drop pos).takeWhile (· ≠ '/')).length) : text[pos + n]? ≠ some '/' := by
  have hget : text[pos + n]? = some ((text.drop pos).takeWhile (· ≠ '/'))[n] := by
    rw [(List.takeWhile_prefix _).getElem h, ← List.getElem?_drop, List.getElem?_eq_getElem]
  have hne := List.mem_takeWhile_imp (List.getElem_mem h)
  rw [hget]
  simpa using hne

theorem Ways.decide_ofText (others : Atom → List Char → Nat → List Nat) (text : List Char) :
    ∀ a, (Ways.ofText others text).Decide a
  | .char c => by
      intro pos
      simp only [ofText, Atom.lengths]
      split <;> simp
  | .group e captures true => by
      intro pos
      simp only [Atom.runs, ofText, Atom.lengths, List.flatMap_map]
      cases hn : ((text.drop pos).takeWhile (· ≠ '/')).length with
      | zero => simp
      | succ n =>
          -- only the longest run of other characters can have a slash after it
          have short : ∀ k ∈ (List.range n).reverse, text[pos + (k + 1)]? ≠ some '/' := by
            intro k hk
            have : k < n := by simpa using hk
            exact getElem?_ne_slash (by omega)
          rw [List.range_succ, List.reverse_append, List.reverse_singleton, List.flatMap_append,
            List.length_append, List.length_eq_zero_iff.2 (List.flatMap_eq_nil_iff.2
              fun k (hk : k ∈ (List.range n).reverse) => by simp [short k hk])]
          by_cases h : text[pos + (n + 1)]? = some '/' <;> simp [h]
  | .group e captures false => trivial

/-- The first of the numbered entries on which `g` succeeds. -/
theorem findSome?_zipIdx_eq_some {β γ : Type} {g : β → Option γ} {fs : List β} {k i : Nat}
    {x : γ} :
    ((fs.zipIdx k).findSome? fun f => (g f.1).map fun x => (f.2, x)) = some (i, x) ↔
      ∃ j f, i = k + j ∧ fs[j]? = some f ∧ g f = some x ∧
        ∀ j' < j, ∀ f', fs[j']? = some f' → g f' = none := by
  induction fs generalizing k with
  | nil => simp
  | cons f fs ih =>
      rw [List.zipIdx_cons, List.findSome?_cons]
      cases hf : g f with
      | some y =>
          simp only [Option.map_some, Option.some.injEq, Prod.mk.injEq]
          constructor
          · rintro ⟨rfl, rfl⟩
            exact ⟨0, f, rfl, rfl, hf, fun j hj => absurd hj (Nat.not_lt_zero j)⟩
          · rintro ⟨j, f', rfl, hj, hx, before⟩
            cases j with
            | zero =>
                obtain rfl : f = f' := by simpa using hj
                exact ⟨rfl, Option.some.inj (hf.symm.trans hx)⟩
            | succ j => simp [before 0 (Nat.succ_pos j) f rfl] at hf
      | none =>
          simp only [Option.map_none, ih]
          constructor
          · rintro ⟨j, f', rfl, hj, hx, before⟩
            refine ⟨j + 1, f', by omega, hj, hx, fun j' hj' f'' hf'' => ?_⟩
            cases j' with
            | zero =>
                obtain rfl : f = f'' := by simpa using hf''
                exact hf
            | succ j' => exact before j' (by omega) f'' hf''
          · rintro ⟨j, f', rfl, hj, hx, before⟩
            cases j with
            | zero =>
                obtain rfl : f = f' := by simpa using hj
                simp [hf] at hx
            | succ j =>
                exact ⟨j, f', by omega, hj, hx, fun j' hj' f'' hf'' =>
                  before (j' + 1) (by omega) f'' hf''⟩

namespace Tree

variable (others : Atom → List Char → Nat → List Nat) (text : List Char)

/-- The first match of a merged tree is the first one of a fragment. -/
theorem fullMatch?_ofFragments (strategy : Strategy) (fs : List (List Atom)) :
    (ofFragments strategy fs).fullMatch? others text =
      fs.zipIdx.findSome? fun f => (Atom.fullMatch? others text f.1).map fun ns => (f.2, ns) := by
  by_cases hfs : fs = []
  · subst hfs
    simp [fullMatch?, ofFragments, insertAll, runs]
  have runs := runs_eq_fragments (isForced_ofFragments strategy hfs)
    (fun _ _ a _ => Ways.decide_ofText others text a) 0
  rw [fullMatch?, runs, fragments_ofFragments, List.find?_flatMap, List.map_findSome?]
  congr 1
  funext f
  simp only [Function.comp_apply, Atom.fullMatch?, List.find?_map, Option.map_map]
  rfl

/-- **Merging keeps the choice of the alternative.**  Whatever the groups other than segments
match, a tree of fragments matches a text as a whole exactly when one of the fragments does; and
its first match is the first one of the earliest fragment that does, in which every atom takes as
many characters as in the tree. -/
theorem fullMatch_ofFragments (strategy : Strategy) (fs : List (List Atom)) :
    (((ofFragments strategy fs).fullMatch? others text).isSome ↔
      ∃ f ∈ fs, (Atom.fullMatch? others text f).isSome) ∧
    ∀ i ns, (ofFragments strategy fs).fullMatch? others text = some (i, ns) ↔
      ∃ f, fs[i]? = some f ∧ Atom.fullMatch? others text f = some ns ∧
        ∀ j < i, ∀ g, fs[j]? = some g → Atom.fullMatch? others text g = none := by
  rw [fullMatch?_ofFragments]
  constructor
  · rw [List.isSome_findSome?, List.any_eq_true]
    constructor
    · rintro ⟨f, hf, hs⟩
      exact ⟨f.1, (List.mem_zipIdx' hf).2 ▸ List.getElem_mem _, by simpa using hs⟩
    · rintro ⟨f, hf, hs⟩
      obtain ⟨i, hi, rfl⟩ := List.mem_iff_getElem.1 hf
      exact ⟨(fs[i], i), by simp [List.mem_zipIdx_iff_getElem?, hi], by simpa using hs⟩
  · intro i ns
    rw [findSome?_zipIdx_eq_some]
    constructor
    · rintro ⟨j, f, rfl, hj, hf, before⟩
      rw [Nat.zero_add]
      exact ⟨f, hj, hf, before⟩
    · rintro ⟨f, hi, hf, before⟩
      exact ⟨i, f, (Nat.zero_add i).symm, hi, hf, before⟩

end Tree

end Signpost
