import Signpost.Proofs.Regex.Moves
import Signpost.Proofs.Regex.Transport

/-!
# Regex — what a reader counts

A reader counts the capturing parentheses.  The groups of what it has read have numbers up to this
count (`Reader.InRange`), but there may be fewer of them, since a repetition that admits no copy
drops the groups of its body.

* `Node.groupCount_le_iff`: the groups of a node are counted by their largest number.
* `Reader.InRange.of_reads`: the numbers of groups are in range after every run.
-/

namespace Signpost.Regex

/-! ### Sequences and choices -/

namespace Node

theorem sequence_cons_cons (n m : Node) (ns : List Node) :
    sequence (n :: m :: ns) = .cat n (sequence (m :: ns)) :=
  rfl

theorem choice_cons_cons (n m : Node) (ns : List Node) :
    choice (n :: m :: ns) = .alt n (choice (m :: ns)) :=
  rfl

theorem indices_sequence (ns : List Node) : (sequence ns).indices = ns.flatMap indices := by
  induction ns with
  | nil => rfl
  | cons n ns ih =>
      cases ns with
      | nil => simp [sequence]
      | cons m ns => rw [sequence_cons_cons, indices, ih]; rfl

theorem indices_choice (ns : List Node) : (choice ns).indices = ns.flatMap indices := by
  induction ns with
  | nil => rfl
  | cons n ns ih =>
      cases ns with
      | nil => simp [choice]
      | cons m ns => rw [choice_cons_cons, indices, ih]; rfl

/-- A repetition keeps the groups of its body or drops them all. -/
theorem repeated_eq_or (n : Node) (min : Nat) (max : Option Nat) (greedy : Bool) :
    n.repeated min max greedy = .empty ∨ n.repeated min max greedy = n ∨
      ∃ min' max', n.repeated min max greedy = .repetition n min' max' greedy := by
  unfold repeated
  generalize (if n.matchesOnlyEmpty = true then (Nat.min min 1, some (max.elim 1 (Nat.min · 1)))
    else (min, max)) = bounds
  obtain ⟨min, max⟩ := bounds
  simp only
  split
  · exact .inl rfl
  · split
    · exact .inr (.inl rfl)
    · exact .inr (.inr ⟨min, max, rfl⟩)

theorem mem_indices_of_repeated {n : Node} {min : Nat} {max : Option Nat} {greedy : Bool}
    {i : Nat} (h : i ∈ (n.repeated min max greedy).indices) : i ∈ n.indices := by
  rcases repeated_eq_or n min max greedy with heq | heq | ⟨min', max', heq⟩
  · simp [heq, indices] at h
  · rwa [heq] at h
  · rwa [heq] at h

theorem IsLeaf.indices_eq {n : Node} (h : n.IsLeaf) : n.indices = [] := by
  cases n <;> first | rfl | exact h.elim

/-- The count is the largest of the numbers. -/
theorem groupCount_le_iff {n : Node} {k : Nat} : n.groupCount ≤ k ↔ ∀ i ∈ n.indices, i ≤ k := by
  induction n with
  | group index name n ih =>
      rw [groupCount, indices, List.forall_mem_cons, ← ih]
      exact Nat.max_le
  | cat a b iha ihb | alt a b iha ihb =>
      rw [groupCount, indices, List.forall_mem_append, ← iha, ← ihb]
      exact Nat.max_le
  | repetition n min max greedy ih => exact ih
  | empty | char _ | set _ | look _ => simp [groupCount, indices]

end Node

/-! ### The numbers of groups -/

/-- Whether a number is one of the first `count`. -/
def InRange (count i : Nat) : Prop := 0 < i ∧ i ≤ count

theorem InRange.mono {count count' i : Nat} (h : InRange count i) (hle : count ≤ count') :
    InRange count' i :=
  ⟨h.1, Nat.le_trans h.2 hle⟩

/-- Whether the groups of pieces have numbers up to `count`. -/
def Piece.InRange (count : Nat) (ps : List Piece) : Prop :=
  ∀ p ∈ ps, ∀ i ∈ p.node.indices, Regex.InRange count i

namespace Piece.InRange

variable {count count' : Nat} {p : Piece} {ps : List Piece}

theorem mono (h : InRange count ps) (hle : count ≤ count') : InRange count' ps :=
  fun p hp i hi => (h p hp i hi).mono hle

theorem cons (hp : ∀ i ∈ p.node.indices, Regex.InRange count i) (hps : InRange count ps) :
    InRange count (p :: ps) :=
  List.forall_mem_cons.2 ⟨hp, hps⟩

theorem sequence (h : InRange count ps) :
    ∀ i ∈ (Piece.sequence ps).node.indices, Regex.InRange count i := by
  intro i hi
  rw [node_sequence, Node.indices_sequence] at hi
  obtain ⟨n, hn, hi⟩ := List.mem_flatMap.1 hi
  obtain ⟨p, hp, rfl⟩ := List.mem_map.1 hn
  exact h p (List.mem_reverse.1 hp) i hi

theorem choice (h : InRange count ps) :
    ∀ i ∈ (Piece.choice ps).node.indices, Regex.InRange count i := by
  intro i hi
  rw [node_choice, Node.indices_choice] at hi
  obtain ⟨n, hn, hi⟩ := List.mem_flatMap.1 hi
  obtain ⟨p, hp, rfl⟩ := List.mem_map.1 hn
  exact h p (List.mem_reverse.1 hp) i hi

end Piece.InRange

/-- Whether an open group, and what has been read before it, has numbers up to `count`. -/
structure OpenGroup.InRange (count : Nat) (g : OpenGroup) : Prop where
  opening  : ∀ i name, g.opening = .capture i name → Regex.InRange count i
  branches : Piece.InRange count g.branches
  pieces   : Piece.InRange count g.pieces

/-- Whether all groups of what has been read have numbers up to the count. -/
structure Reader.InRange (r : Reader) : Prop where
  groups   : ∀ g ∈ r.groups, g.InRange r.captures
  branches : Piece.InRange r.captures r.branches
  pieces   : Piece.InRange r.captures r.pieces

namespace Reader

variable {r r' : Reader}

theorem InRange.openGroup (h : r.InRange) {opening : Opening} {flags : Flags}
    (hopening : ∀ i name, opening = .capture i name → Regex.InRange r.captures i) :
    (r.openGroup opening flags).InRange where
  groups   := List.forall_mem_cons.2 ⟨⟨hopening, h.branches, h.pieces⟩, h.groups⟩
  branches := by simp [Piece.InRange, Reader.openGroup]
  pieces   := by simp [Piece.InRange, Reader.openGroup]

theorem InRange.of_move {m : Move} (h : r.InRange) (hm : m.act? r = some r') : r'.InRange := by
  cases m with
  | plain flags =>
      cases hm
      exact h.openGroup (by simp)
  | capture name =>
      obtain ⟨-, rfl⟩ := openCapture?_eq_some.1 hm
      -- the count goes up before the group is opened, so that its own number is in range
      have hmore : ({ r with captures := r.captures + 1, names := name.toList ++ r.names } :
          Reader).InRange :=
        ⟨fun g hg => ⟨fun i name hi => ((h.groups g hg).opening i name hi).mono (Nat.le_succ _),
          (h.groups g hg).branches.mono (Nat.le_succ _),
          (h.groups g hg).pieces.mono (Nat.le_succ _)⟩,
          h.branches.mono (Nat.le_succ _), h.pieces.mono (Nat.le_succ _)⟩
      refine hmore.openGroup fun i name hi => ?_
      cases hi
      exact ⟨Nat.succ_pos _, Nat.le_refl _⟩
  | set flags =>
      cases hm
      exact ⟨h.groups, h.branches, .cons (by simp [Node.indices]) h.pieces⟩
  | leaf node isLeaf depth =>
      cases hm
      exact ⟨h.groups, h.branches, .cons (by simp [isLeaf.indices_eq]) h.pieces⟩
  | close =>
      obtain ⟨g, gs, hg, rfl⟩ := closeGroup?_eq_some.1 hm
      have hcurrent : ∀ i ∈ r.current.node.indices, Regex.InRange r.captures i :=
        (Piece.InRange.cons h.pieces.sequence h.branches).choice
      obtain ⟨hopen, hbelow⟩ := List.forall_mem_cons.1 (hg ▸ h.groups)
      refine ⟨hbelow, hopen.branches, .cons (fun i hi => ?_) hopen.pieces⟩
      cases ho : g.opening with
      | plain =>
          simp only [OpenGroup.close, ho] at hi
          exact hcurrent i hi
      | capture index name =>
          simp only [OpenGroup.close, ho, Node.indices, List.mem_cons] at hi
          rcases hi with rfl | hi
          · exact hopen.opening i name ho
          · exact hcurrent i hi
  | bar =>
      cases hm
      exact ⟨h.groups, .cons h.pieces.sequence h.branches, by simp [Piece.InRange, branch]⟩
  | again min max mark =>
      obtain ⟨p, ps, hp, -, rfl⟩ := repeatLast?_eq_some.1 hm
      obtain ⟨hfirst, hrest⟩ := List.forall_mem_cons.1 (hp ▸ h.pieces)
      exact ⟨h.groups, h.branches,
        .cons (fun i hi => hfirst i (Node.mem_indices_of_repeated hi)) hrest⟩

theorem InRange.of_reads {n : Nat} {text left : List Char} {ps : List Paren} (h : r.InRange)
    (hrun : Reads n r text ps r' left) : r'.InRange := by
  induction hrun with
  | done => exact h
  | step _ hstep _ ih =>
      obtain ⟨m, hm, -⟩ := exists_move hstep
      exact ih (h.of_move hm)

theorem InRange.start : ({} : Reader).InRange :=
  ⟨by simp, by simp [Piece.InRange], by simp [Piece.InRange]⟩

end Reader

end Signpost.Regex
