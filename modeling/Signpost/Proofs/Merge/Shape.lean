import Signpost.Merge.Tree

/-!
# Merging — the shape of the tree

What a tree of fragments looks like after any number of insertions.

A list of atoms is *forced* when there is no choice in how it matches, whatever the text: each of
its atoms is a character, or a segment with a slash after it (`Atom.AreForced`).  A tree is forced
when all that its branches share is, and when each of them has alternatives (`Tree.IsForced`).

* `Tree.fragments_ofFragments`: the fragments that a tree stands for, read from left to right with
  what is shared put back in front of them, are the ones that it was built from, in their order.
* `Tree.isForced_ofFragments`: the tree of a list of fragments is forced.
-/

namespace Signpost

/-! ### Forced atoms -/

/-- Whether each atom is a character, or a segment with a slash after it. -/
def Atom.AreForced : List Atom → Prop
  | []                         => True
  | .char _ :: as              => AreForced as
  | .group _ _ isSegment :: as =>
    isSegment = true ∧ as.head? = some (.char '/') ∧ AreForced as

namespace Atom.AreForced

theorem tail {a : Atom} {as : List Atom} (h : AreForced (a :: as)) : AreForced as := by
  cases a with
  | char c => exact h
  | group e captures isSegment => exact h.2.2

theorem drop {as : List Atom} (h : AreForced as) (n : Nat) : AreForced (as.drop n) := by
  induction as generalizing n with
  | nil => simpa using h
  | cons a as ih =>
      cases n with
      | zero => exact h
      | succ n => exact ih h.tail n

end Atom.AreForced

namespace Tree

/-! ### What two fragments share -/

theorem sharedLength_le (strategy : Strategy) (as bs : List Atom) :
    sharedLength strategy as bs ≤ as.length := by
  induction as generalizing bs with
  | nil => simp [sharedLength]
  | cons a as ih =>
      cases bs with
      | nil => simp [sharedLength]
      | cons b bs =>
          unfold sharedLength
          split
          · simpa using ih bs
          · simp

theorem take_sharedLength (strategy : Strategy) (as bs : List Atom) :
    as.take (sharedLength strategy as bs) = bs.take (sharedLength strategy as bs) := by
  induction as generalizing bs with
  | nil => simp [sharedLength]
  | cons a as ih =>
      cases bs with
      | nil => simp [sharedLength]
      | cons b bs =>
          unfold sharedLength
          split
          · rename_i h
            rw [List.take_succ_cons, List.take_succ_cons, ih bs, h.1]
          · simp

/-- A slash that follows on both sides is shared too. -/
theorem sharedLength_slash (strategy : Strategy) (as bs : List Atom) :
    sharedLength strategy (.char '/' :: as) (.char '/' :: bs) =
      sharedLength strategy as bs + 1 := by
  simp [sharedLength, isShareable]

theorem areForced_take_sharedLength (strategy : Strategy) (as bs : List Atom) :
    Atom.AreForced (as.take (sharedLength strategy as bs)) := by
  induction as generalizing bs with
  | nil => simp [Atom.AreForced]
  | cons a as ih =>
      cases bs with
      | nil => simp [sharedLength, Atom.AreForced]
      | cons b bs =>
          unfold sharedLength
          split
          case isFalse => exact trivial
          case isTrue h =>
            rw [List.take_succ_cons]
            cases a with
            | char c => exact ih bs
            | group e captures isSegment =>
                simp only [isShareable, Bool.and_eq_true, beq_iff_eq] at h
                obtain ⟨-, ⟨⟨seg, -⟩, hd⟩, hd'⟩ := h
                obtain ⟨as, rfl⟩ := List.head?_eq_some_iff.1 hd
                obtain ⟨bs, rfl⟩ := List.head?_eq_some_iff.1 hd'
                refine ⟨seg, ?_, ih _⟩
                rw [sharedLength_slash, List.take_succ_cons, List.head?_cons]

/-! ### The fragments of a tree -/

/-- Induction on a tree, with the hypothesis for every child of a branch. -/
@[elab_as_elim]
theorem induct {motive : Tree → Prop} (leaf : ∀ index rest, motive (.leaf index rest))
    (branch : ∀ shared children, (∀ c ∈ children, motive c) → motive (.branch shared children))
    (t : Tree) : motive t := by
  cases t with
  | leaf index rest => exact leaf index rest
  | branch shared children => exact branch shared children fun c _ => induct leaf branch c

/-- The fragments that the leaves stand for, from left to right: what the branches above a leaf
share, and then its rest. -/
def fragments : Tree → List (List Atom × Nat)
  | .leaf index rest         => [(rest, index)]
  | .branch shared children =>
    (children.flatMap fragments).map fun f => (shared ++ f.1, f.2)

/-- Whether all that branches share is forced, and each of them has an alternative. -/
inductive IsForced : Tree → Prop where
  | leaf (index : Nat) (rest : List Atom) : IsForced (.leaf index rest)
  | branch {shared : List Atom} {children : List Tree} (own : Atom.AreForced shared)
      (nonempty : children ≠ []) (below : ∀ c ∈ children, IsForced c) :
      IsForced (.branch shared children)

theorem IsForced.shared {shared : List Atom} {children : List Tree}
    (h : IsForced (.branch shared children)) : Atom.AreForced shared := by
  cases h with
  | branch own _ _ => exact own

theorem IsForced.nonempty {shared : List Atom} {children : List Tree}
    (h : IsForced (.branch shared children)) : children ≠ [] := by
  cases h with
  | branch _ nonempty _ => exact nonempty

theorem IsForced.children {shared : List Atom} {children : List Tree}
    (h : IsForced (.branch shared children)) : ∀ c ∈ children, IsForced c := by
  cases h with
  | branch _ _ below => exact below

/-- A forced tree stands for some fragment. -/
theorem IsForced.fragments_ne_nil {t : Tree} (h : t.IsForced) : t.fragments ≠ [] := by
  induction t using induct with
  | leaf index rest => simp [fragments]
  | branch shared children ih =>
      obtain ⟨c, hc⟩ := List.exists_mem_of_ne_nil _ h.nonempty
      obtain ⟨f, hf⟩ := List.exists_mem_of_ne_nil _ (ih c hc (h.children c hc))
      refine List.ne_nil_of_mem (a := (shared ++ f.1, f.2)) ?_
      rw [fragments]
      exact List.mem_map.2 ⟨f, List.mem_flatMap.2 ⟨c, hc, hf⟩, rfl⟩

/-- What holds of all atoms of the fragments holds of those of a branch. -/
theorem IsForced.forall_mem_shared {P : Atom → Prop} {shared : List Atom} {children : List Tree}
    (h : IsForced (.branch shared children))
    (hP : ∀ f ∈ (Tree.branch shared children).fragments, ∀ a ∈ f.1, P a) :
    (∀ a ∈ shared, P a) ∧ ∀ c ∈ children, ∀ f ∈ c.fragments, ∀ a ∈ f.1, P a := by
  have hmem : ∀ f ∈ children.flatMap fragments,
      (shared ++ f.1, f.2) ∈ (Tree.branch shared children).fragments := by
    intro f hf
    rw [fragments]
    exact List.mem_map.2 ⟨f, hf, rfl⟩
  constructor
  · obtain ⟨c, hc⟩ := List.exists_mem_of_ne_nil _ h.nonempty
    obtain ⟨f, hf⟩ := List.exists_mem_of_ne_nil _ (h.children c hc).fragments_ne_nil
    have hf := hmem f (List.mem_flatMap.2 ⟨c, hc, hf⟩)
    exact fun a ha => hP _ hf a (List.mem_append_left _ ha)
  · intro c hc f hf a ha
    exact hP _ (hmem f (List.mem_flatMap.2 ⟨c, hc, hf⟩)) a (List.mem_append_right _ ha)

/-- The first atoms of a fragment and the rest of it are the fragment. -/
theorem take_append_drop_fragment (atoms : List Atom) (n index : Nat) :
    (atoms.take n ++ atoms.drop n, index) = (atoms, index) := by
  rw [List.take_append_drop]

mutual

theorem fragments_insertInto (strategy : Strategy) (index : Nat) (atoms : List Atom)
    (shared : Nat) : ∀ t : Tree, shared ≤ t.head.length →
      t.head.take shared = atoms.take shared →
      (insertInto strategy index atoms shared t).fragments = t.fragments ++ [(atoms, index)]
  | .leaf i rest, _, heq => by
      simp only [head] at heq
      simp only [insertInto, fragments, List.flatMap_cons, List.flatMap_nil, List.map_cons,
        List.map_nil, List.append_nil, List.cons_append, List.nil_append]
      rw [take_append_drop_fragment, ← heq, take_append_drop_fragment]
  | .branch head children, hle, heq => by
      simp only [Tree.head] at hle heq
      unfold insertInto
      split
      case isTrue h =>
        obtain rfl : head = atoms.take shared := by rw [← heq, h, List.take_length]
        simp only [fragments]
        rw [fragments_insertLast strategy index (atoms.drop shared) children, List.map_append,
          List.map_cons, List.map_nil, take_append_drop_fragment]
      case isFalse h =>
        simp only [fragments, List.flatMap_cons, List.flatMap_nil, List.append_nil,
          List.map_append, List.map_map, List.map_cons, List.map_nil]
        rw [take_append_drop_fragment, ← heq]
        congr 1
        refine List.map_congr_left fun f _ => ?_
        simp only [Function.comp_apply]
        rw [← List.append_assoc, List.take_append_drop]

theorem fragments_insertLast (strategy : Strategy) (index : Nat) (atoms : List Atom) :
    ∀ ts : List Tree, (insertLast strategy index atoms ts).flatMap fragments =
      ts.flatMap fragments ++ [(atoms, index)]
  | [] => by simp [insertLast, fragments]
  | [last] => by
      unfold insertLast
      simp only [sharedWith]
      split
      · simp [fragments]
      · split
        · simp [fragments]
        · simpa using fragments_insertInto strategy index atoms _ last
            (sharedLength_le strategy last.head atoms)
            (take_sharedLength strategy last.head atoms)
  | first :: second :: rest => by
      unfold insertLast
      simpa using fragments_insertLast strategy index atoms (second :: rest)

end

theorem fragments_insertAll (strategy : Strategy) (index : Nat) (children : List Tree)
    (fs : List (List Atom)) :
    (insertAll strategy index children fs).flatMap fragments =
      children.flatMap fragments ++ fs.zipIdx index := by
  induction fs generalizing index children with
  | nil => simp [insertAll]
  | cons f fs ih => simp [insertAll, ih, fragments_insertLast]

/-- **The tree of a list of fragments stands for these fragments**, in their order. -/
theorem fragments_ofFragments (strategy : Strategy) (fs : List (List Atom)) :
    (ofFragments strategy fs).fragments = fs.zipIdx := by
  simp [ofFragments, fragments, fragments_insertAll]

/-! ### The tree is forced -/

theorem insertLast_ne_nil (strategy : Strategy) (index : Nat) (atoms : List Atom)
    (ts : List Tree) : insertLast strategy index atoms ts ≠ [] := by
  unfold insertLast
  split
  · simp
  · simp only
    split <;> simp
  · simp

mutual

theorem isForced_insertInto (strategy : Strategy) (index : Nat) (atoms : List Atom)
    (shared : Nat) (hshared : Atom.AreForced (atoms.take shared)) :
    ∀ t : Tree, t.IsForced → (insertInto strategy index atoms shared t).IsForced
  | .leaf i rest, _ => by
      unfold insertInto
      refine .branch hshared (List.cons_ne_nil _ _) fun c hc => ?_
      simp only [List.mem_cons, List.not_mem_nil, or_false] at hc
      rcases hc with rfl | rfl
      · exact .leaf ..
      · exact .leaf ..
  | .branch head children, h => by
      unfold insertInto
      split
      · exact .branch h.shared (insertLast_ne_nil strategy index _ children)
          (isForced_insertLast strategy index _ children h.children)
      · refine .branch hshared (List.cons_ne_nil _ _) fun c hc => ?_
        simp only [List.mem_cons, List.not_mem_nil, or_false] at hc
        rcases hc with rfl | rfl
        · exact .branch (h.shared.drop shared) h.nonempty h.children
        · exact .leaf ..

theorem isForced_insertLast (strategy : Strategy) (index : Nat) (atoms : List Atom) :
    ∀ ts : List Tree, (∀ t ∈ ts, t.IsForced) →
      ∀ t ∈ insertLast strategy index atoms ts, t.IsForced
  | [], _ => by
      simpa [insertLast] using IsForced.leaf index atoms
  | [last], h => by
      have hlast : last.IsForced := h last (List.mem_singleton_self last)
      -- what is shared is a common prefix as far as it is forced
      have hshared : Atom.AreForced (atoms.take (sharedWith strategy last atoms)) := by
        unfold sharedWith
        split
        · exact trivial
        · rw [← take_sharedLength]
          exact areForced_take_sharedLength strategy last.head atoms
      intro t ht
      unfold insertLast at ht
      simp only at ht
      split at ht
      · simp only [List.mem_cons, List.not_mem_nil, or_false] at ht
        rcases ht with rfl | rfl
        · exact hlast
        · exact .leaf ..
      · rw [List.mem_singleton.1 ht]
        exact isForced_insertInto strategy index atoms _ hshared last hlast
  | first :: second :: rest, h => by
      intro t ht
      unfold insertLast at ht
      rcases List.mem_cons.1 ht with rfl | ht
      · exact h t List.mem_cons_self
      · exact isForced_insertLast strategy index atoms (second :: rest)
          (fun t ht => h t (List.mem_cons_of_mem _ ht)) t ht

end

theorem isForced_insertAll (strategy : Strategy) (index : Nat) (children : List Tree)
    (fs : List (List Atom)) (h : ∀ t ∈ children, t.IsForced) :
    ∀ t ∈ insertAll strategy index children fs, t.IsForced := by
  induction fs generalizing index children with
  | nil => exact h
  | cons f fs ih => exact ih _ _ (isForced_insertLast strategy index f children h)

theorem insertAll_ne_nil (strategy : Strategy) (index : Nat) {children : List Tree}
    (fs : List (List Atom)) (h : children ≠ []) : insertAll strategy index children fs ≠ [] := by
  induction fs generalizing index children with
  | nil => exact h
  | cons f fs ih => exact ih _ (insertLast_ne_nil strategy index f children)

/-- **The tree of a list of fragments is forced.** -/
theorem isForced_ofFragments (strategy : Strategy) {fs : List (List Atom)} (h : fs ≠ []) :
    (ofFragments strategy fs).IsForced := by
  refine .branch trivial ?_ (isForced_insertAll strategy 0 [] fs (by simp))
  obtain ⟨f, fs, rfl⟩ := List.exists_cons_of_ne_nil h
  exact insertAll_ne_nil strategy 1 fs (insertLast_ne_nil strategy 0 f [])

end Tree

end Signpost
