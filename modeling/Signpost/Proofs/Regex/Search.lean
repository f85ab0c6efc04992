import Signpost.Proofs.Regex.Transport

/-!
# Regex — searching with a goal

Matching an expression as a search.  From a state the ways of a node are tried in turn, and the
first one counts from which a goal is reached (`Node.attempt`).  The goals that matter here can be
told from the position whether they are reached (`Positional`).  For these, that the matcher
keeps only one state for each position makes no difference, so a sequence is a search inside of a
search, and a choice is one search after another.

* `Node.attempt_sequence`, `Node.attempt_choice`, `Node.attempt_group`: the search through nodes one
  after the other, through alternatives, and through a group.
* `Node.search?_anchored`: the leftmost match of an expression between two anchors.
-/

namespace Signpost.Regex

open State (firstUnmarked firstAtEach forEach)

variable {α : Type}

/-- Whether the position alone tells if the goal is reached. -/
def Positional (k : State → Option α) : Prop :=
  ∀ s t : State, s.pos = t.pos → (k s).isSome = (k t).isSome

namespace Positional

variable {k : State → Option α}

theorem eq_none (hk : Positional k) {s t : State} (h : s.pos = t.pos) (hs : k s = none) :
    k t = none := by
  have := hk s t h
  rw [hs] at this
  exact Option.isSome_eq_false_iff.1 this.symm |> Option.isNone_iff_eq_none.1

theorem comp (hk : Positional k) {g : State → State} (hg : ∀ s, (g s).pos = s.pos) :
    Positional fun s => k (g s) :=
  fun s t h => hk _ _ ((hg s).trans (h.trans (hg t).symm))

/-- The end of the text as a goal. -/
theorem atEnd (text : Array Char) :
    Positional fun s : State => if text.size ≤ s.pos then some s else none := by
  intro s t h
  simp only [h]
  split <;> rfl

end Positional

/-! ### One state for each position -/

theorem findSome?_flatMap {β γ : Type} (f : β → List γ) (k : γ → Option α) (l : List β) :
    (l.flatMap f).findSome? k = l.findSome? fun b => (f b).findSome? k := by
  induction l with
  | nil => rfl
  | cons b l ih =>
      rw [List.flatMap_cons, List.findSome?_append, List.findSome?_cons, ih]
      cases (f b).findSome? k <;> rfl

theorem findSome?_filterMap {β γ : Type} (f : β → Option γ) (k : γ → Option α) (l : List β) :
    (l.filterMap f).findSome? k = l.findSome? fun b => (f b).bind k := by
  induction l with
  | nil => rfl
  | cons b l ih =>
      rw [List.filterMap_cons, List.findSome?_cons]
      cases hb : f b with
      | none => exact ih
      | some c =>
          simp only [List.findSome?_cons, Option.bind_some]
          cases k c with
          | none => exact ih
          | some x => rfl

theorem findSome?_firstUnmarked {k : State → Option α} (hk : Positional k) {seen : Marks}
    {ss : List State} (hseen : ∀ s ∈ ss, seen.contains s.pos = true → k s = none) :
    (firstUnmarked seen ss).findSome? k = ss.findSome? k := by
  induction ss generalizing seen with
  | nil => rfl
  | cons s ss ih =>
      obtain ⟨hs, hss⟩ := List.forall_mem_cons.1 hseen
      unfold firstUnmarked
      split
      case isTrue h => rw [ih hss, List.findSome?_cons, hs h]
      case isFalse h =>
        rw [List.findSome?_cons, List.findSome?_cons]
        cases hks : k s with
        | some x => rfl
        | none =>
            refine ih fun t ht hmark => ?_
            rw [Marks.contains_insert, Bool.or_eq_true, decide_eq_true_eq] at hmark
            rcases hmark with heq | hmark
            · exact hk.eq_none heq.symm hks
            · exact hss t ht hmark

/-- **A search does not miss the states that are left out.** -/
theorem findSome?_firstAtEach {k : State → Option α} (hk : Positional k) (ss : List State) :
    (firstAtEach ss).findSome? k = ss.findSome? k :=
  findSome?_firstUnmarked hk fun s _ h => by rw [Marks.contains_empty] at h; cases h

theorem findSome?_forEach {k : State → Option α} (hk : Positional k) (f : State → List State) :
    ∀ ss, (forEach f ss).findSome? k = ss.findSome? fun s => (f s).findSome? k
  | []           => rfl
  | [s]          => by simp [forEach]
  | s :: s' :: ss => by
      rw [forEach.eq_2 _ _ (by simp), findSome?_firstAtEach hk, findSome?_flatMap]

theorem nodup_firstUnmarked (seen : Marks) (ss : List State) :
    ((firstUnmarked seen ss).map State.pos).Nodup ∧
      ∀ s ∈ firstUnmarked seen ss, seen.contains s.pos = false := by
  induction ss generalizing seen with
  | nil => simp [firstUnmarked]
  | cons s ss ih =>
      unfold firstUnmarked
      split
      case isTrue => exact ih seen
      case isFalse h =>
        obtain ⟨hnodup, hmark⟩ := ih (seen.insert s.pos)
        simp only [Marks.contains_insert, Bool.or_eq_false_iff, decide_eq_false_iff_not] at hmark
        refine ⟨List.nodup_cons.2 ⟨fun hmem => ?_, hnodup⟩, List.forall_mem_cons.2 ⟨?_, ?_⟩⟩
        · obtain ⟨t, ht, hpos⟩ := List.mem_map.1 hmem
          exact (hmark t ht).1 hpos
        · exact Bool.eq_false_iff.2 h
        · exact fun t ht => (hmark t ht).2

theorem nodup_firstAtEach (ss : List State) : ((firstAtEach ss).map State.pos).Nodup :=
  (nodup_firstUnmarked .empty ss).1

namespace Node

/-! ### Attempts -/

variable (text : Array Char)

/-- The goal `k` after the node: what the first of its ways from a state reaches. -/
def attempt (n : Node) (k : State → Option α) (s : State) : Option α :=
  (n.advance text [s]).findSome? k

variable {text} {k : State → Option α} (hk : Positional k)
include hk

/-- What can be reached depends on the position alone. -/
theorem positional_attempt (n : Node) : Positional (n.attempt text k) := by
  intro s t h
  have alone : ∀ s : State, (n.attempt text k s).isSome =
      (n.advance text [⟨s.pos, []⟩]).any fun u => (k u).isSome := by
    intro s
    have hadvance := advance_singleton text id n s
    rw [renumber_id] at hadvance
    rw [attempt, hadvance, List.isSome_findSome?, List.any_map]
    congr 1
    funext u
    exact hk _ _ rfl
  rw [alone, alone, h]

theorem findSome?_advance (n : Node) (ss : List State) :
    (n.advance text ss).findSome? k = ss.findSome? (n.attempt text k) := by
  induction n generalizing k ss with
  | empty =>
      rw [advance_empty]
      congr 1
      funext s
      simp [attempt]
  | char _ | set _ =>
      simp only [advance_char, advance_set, findSome?_filterMap]
      congr 1
      funext s
      simp [attempt, findSome?_filterMap]
  | look l =>
      simp only [advance_look, ← List.filterMap_eq_filter, findSome?_filterMap]
      congr 1
      funext s
      simp only [attempt, advance_look, ← List.filterMap_eq_filter, findSome?_filterMap,
        List.findSome?_singleton]
  | cat a b iha ihb =>
      rw [advance_cat, ihb hk, iha (positional_attempt hk b)]
      congr 1
      funext s
      rw [attempt, attempt, advance_cat, ihb hk]
  | group | alt | repetition =>
      simp only [advance_group, advance_alt, advance_repetition, findSome?_forEach hk]
      congr 1

theorem attempt_cat (a b : Node) (s : State) :
    (cat a b).attempt text k s = a.attempt text (b.attempt text k) s := by
  rw [attempt, advance_cat, findSome?_advance hk]
  rfl

theorem attempt_alt (a b : Node) (s : State) :
    (alt a b).attempt text k s = (a.attempt text k s).or (b.attempt text k s) := by
  rw [attempt, advance_alt, findSome?_forEach hk]
  rw [List.findSome?_singleton, findSome?_firstAtEach hk, List.findSome?_append]
  rfl

theorem attempt_group (index : Nat) (name : Option String) (n : Node) (s : State) :
    (group index name n).attempt text k s =
      n.attempt text (fun t => k (t.capture index s.pos)) s := by
  rw [attempt, advance_group, findSome?_forEach hk, List.findSome?_singleton, List.findSome?_map]
  rfl

omit hk in
theorem attempt_empty (s : State) : empty.attempt text k s = k s := by
  rw [attempt, advance_empty]
  simp

/-- Nodes one after the other, each searched for what comes after it. -/
theorem attempt_sequence (ns : List Node) (s : State) :
    (sequence ns).attempt text k s = ns.foldr (fun n k => n.attempt text k) k s := by
  induction ns generalizing s with
  | nil => exact attempt_empty s
  | cons n ns ih =>
      cases ns with
      | nil => rfl
      | cons m ns =>
          rw [sequence, attempt_cat hk, List.foldr_cons]
          · congr 1
            funext t
            exact ih t
          · simp

/-- Alternatives, one after the other. -/
theorem attempt_choice {ns : List Node} (hne : ns ≠ []) (s : State) :
    (choice ns).attempt text k s = ns.findSome? fun n => n.attempt text k s := by
  induction ns with
  | nil => exact absurd rfl hne
  | cons n ns ih =>
      cases ns with
      | nil =>
          rw [choice, List.findSome?_singleton]
      | cons m ns =>
          have hchoice : choice (n :: m :: ns) = alt n (choice (m :: ns)) := rfl
          rw [hchoice, attempt_alt hk, ih (by simp)]
          cases hn : n.attempt text k s <;> simp [List.findSome?_cons, hn]

/-- What a node reaches from a state, by its ways from the position alone. -/
theorem attempt_renumber (f : Nat → Nat) (n : Node) (s : State) :
    (n.renumber f).attempt text k s =
      (firstAtEach (n.advance text [⟨s.pos, []⟩])).findSome? fun t => k (t.embed f s.spans) := by
  rw [attempt, advance_singleton, List.findSome?_map,
    findSome?_firstAtEach (hk.comp (State.pos_embed f s.spans))]
  rfl

/-! ### The whole of a text -/

omit hk

theorem attempt_textEnd (s : State) (k : State → Option α) :
    (look .textEnd).attempt text k s = if text.size ≤ s.pos then k s else none := by
  rw [attempt, advance_look]
  by_cases h : text.size ≤ s.pos
  · simp [Look.holdsAt, Look.holdsBetween, h]
  · simp [Look.holdsAt, Look.holdsBetween, h]

/-- **The leftmost match of an expression between two anchors** is its first way to get from one
end of the text to the other. -/
theorem search?_anchored (n : Node) :
    (sequence [look .textStart, n, look .textEnd]).search? text =
      (n.attempt text (fun s => if text.size ≤ s.pos then some s else none) ⟨0, []⟩).map
        (State.capture 0 0) := by
  have head : ∀ ss : List State, ss.head? = ss.findSome? some := by
    intro ss
    cases ss <;> rfl
  have hsome : Positional (some : State → Option State) := fun _ _ _ => rfl
  have hanchored : (sequence [look .textStart, n, look .textEnd]).isAnchored = true := rfl
  have hstart : (look .textStart).advance text [⟨0, []⟩] = [⟨0, []⟩] := by
    rw [advance_look]
    rfl
  rw [search?, if_pos hanchored, matchAt?, head]
  congr 1
  change (cat (look .textStart) (cat n (look .textEnd))).attempt text some ⟨0, []⟩ = _
  rw [attempt_cat hsome, attempt, hstart]
  rw [List.findSome?_singleton, attempt_cat hsome]
  have hend : (look .textEnd).attempt text (some : State → Option State) =
      fun s => if text.size ≤ s.pos then some s else none := by
    funext s
    exact attempt_textEnd s some
  rw [hend]

end Node

end Signpost.Regex
