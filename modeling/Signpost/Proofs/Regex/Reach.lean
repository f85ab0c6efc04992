import Signpost.Proofs.Regex.Search

/-!
# Regex — where a node leads

Between which positions of a text a node matches, whatever it captures and prefers
(`Node.Reaches`): a sequence by way of a position between its parts, a repetition by as many copies
as it admits.  The matcher keeps one state for each position, and begins a copy only once at each,
but of the positions themselves it misses none.

A walk through the copies of a repetition is a search in depth.  What it relies on is that a copy
that has been begun is either finished, so that all that lies behind it has been reached, or still
under way (`Walk.Advances`).

* `Walk.advances_upTo`, `Walk.advances_onward`: a walk reaches all that lies behind a state.
* `Node.ends_advance`: the matcher ends just where the node leads.
* `Node.Reaches.shift`: what does not look around matches in every surrounding text.
-/

namespace Signpost.Regex

open State (firstUnmarked firstAtEach forEach)

/-! ### Positions of states -/

/-- Whether one of the states is at a position. -/
def Ends (ss : List State) (j : Nat) : Prop := ∃ t ∈ ss, t.pos = j

/-- The goal of being at a position. -/
def State.atPos (j : Nat) (s : State) : Option State := if s.pos = j then some s else none

theorem Positional.atPos (j : Nat) : Positional (State.atPos j) := by
  intro s t h
  simp only [State.atPos, h]
  split <;> rfl

theorem ends_iff {ss : List State} {j : Nat} :
    Ends ss j ↔ (ss.findSome? (State.atPos j)).isSome := by
  rw [List.isSome_findSome?, List.any_eq_true]
  refine exists_congr fun t => and_congr_right fun _ => ?_
  unfold State.atPos
  split <;> simp [*]

theorem ends_nil (j : Nat) : ¬Ends [] j := by
  rintro ⟨t, ht, -⟩
  cases ht

theorem ends_cons {s : State} {ss : List State} {j : Nat} :
    Ends (s :: ss) j ↔ s.pos = j ∨ Ends ss j := by
  simp [Ends]

theorem ends_append {ss ts : List State} {j : Nat} :
    Ends (ss ++ ts) j ↔ Ends ss j ∨ Ends ts j := by
  simp [Ends, or_and_right, exists_or]

theorem ends_firstAtEach {ss : List State} {j : Nat} : Ends (firstAtEach ss) j ↔ Ends ss j := by
  rw [ends_iff, ends_iff, findSome?_firstAtEach (.atPos j)]

theorem ends_forEach {f : State → List State} {ss : List State} {j : Nat} :
    Ends (forEach f ss) j ↔ ∃ s ∈ ss, Ends (f s) j := by
  rw [ends_iff, findSome?_forEach (.atPos j), List.isSome_findSome?, List.any_eq_true]
  simp only [ends_iff]

/-! ### The relation -/

/-- Whether a relation leads from one position to another in a number of steps. -/
inductive Copies (R : Nat → Nat → Prop) : Nat → Nat → Nat → Prop
  | none (i : Nat) : Copies R 0 i i
  | more {count i j k : Nat} (first : R i j) (rest : Copies R count j k) : Copies R (count + 1) i k

/-- Whether a node matches the text between two positions. -/
def Node.Reaches (text : Array Char) : Node → Nat → Nat → Prop
  | .empty, i, j                  => i = j
  | .char c, i, j                 => text[i]? = some c ∧ i + 1 = j
  | .set cs, i, j                 => text[i]?.any cs.contains ∧ i + 1 = j
  | .look l, i, j                 => l.holdsAt text i ∧ i = j
  | .group _ _ n, i, j            => n.Reaches text i j
  | .cat a b, i, j                => ∃ k, a.Reaches text i k ∧ b.Reaches text k j
  | .alt a b, i, j                => a.Reaches text i j ∨ b.Reaches text i j
  | .repetition n min max _, i, j =>
    ∃ more, (∀ m ∈ max, more ≤ m - min) ∧ Copies (n.Reaches text) (min + more) i j

namespace Copies

variable {R : Nat → Nat → Prop} {count count' i j k : Nat}

theorem trans (h : Copies R count i j) (h' : Copies R count' j k) :
    Copies R (count + count') i k := by
  induction h with
  | none => rwa [Nat.zero_add]
  | more first _ ih =>
      rw [Nat.add_right_comm]
      exact .more first (ih h')

/-- Copies can be cut anywhere. -/
theorem cut (h : Copies R (count + count') i k) :
    ∃ j, Copies R count i j ∧ Copies R count' j k := by
  induction count generalizing i with
  | zero => exact ⟨i, .none i, by rwa [Nat.zero_add] at h⟩
  | succ count ih =>
      rw [Nat.add_right_comm] at h
      cases h with
      | more first rest =>
          obtain ⟨j, hj, hk⟩ := ih rest
          exact ⟨j, .more first hj, hk⟩

/-- Copies that lead away from a position begin with one that does. -/
theorem leave (h : Copies R count i k) :
    i = k ∨ ∃ j, R i j ∧ j ≠ i ∧ ∃ count', Copies R count' j k := by
  induction h with
  | none => exact .inl rfl
  | @more count i j k first rest ih =>
      by_cases hj : j = i
      · subst hj
        exact ih
      · exact .inr ⟨j, first, hj, count, rest⟩

theorem imp {S : Nat → Nat → Prop} (hRS : ∀ i j, R i j → S i j) (h : Copies R count i j) :
    Copies S count i j := by
  induction h with
  | none i => exact .none i
  | more first _ ih => exact .more (hRS _ _ first) ih

/-- Copies stay where the relation stays. -/
theorem stays {size : Nat} (hR : ∀ i j, i ≤ size → R i j → i ≤ j ∧ j ≤ size)
    (h : Copies R count i j) (hi : i ≤ size) : i ≤ j ∧ j ≤ size := by
  induction h with
  | none => exact ⟨Nat.le_refl _, hi⟩
  | more first _ ih =>
      obtain ⟨hle, hsize⟩ := hR _ _ hi first
      obtain ⟨hle', hsize'⟩ := ih hsize
      exact ⟨Nat.le_trans hle hle', hsize'⟩

end Copies

/-- A node leads forward, and not out of the text. -/
theorem Node.Reaches.stays {text : Array Char} {n : Node} {i j : Nat} (h : n.Reaches text i j)
    (hi : i ≤ text.size) : i ≤ j ∧ j ≤ text.size := by
  induction n generalizing i j with
  | empty => exact h ▸ ⟨Nat.le_refl i, hi⟩
  | char c =>
      obtain ⟨hc, rfl⟩ := h
      obtain ⟨hlt, -⟩ := Array.getElem?_eq_some_iff.1 hc
      exact ⟨Nat.le_succ i, hlt⟩
  | set cs =>
      obtain ⟨hc, rfl⟩ := h
      obtain ⟨c, hc, -⟩ := (Option.any_eq_true _ _).1 hc
      obtain ⟨hlt, -⟩ := Array.getElem?_eq_some_iff.1 hc
      exact ⟨Nat.le_succ i, hlt⟩
  | look l => exact h.2 ▸ ⟨Nat.le_refl i, hi⟩
  | group index name n ih => exact ih h hi
  | cat a b iha ihb =>
      obtain ⟨k, ha, hb⟩ := h
      obtain ⟨hle, hsize⟩ := iha ha hi
      obtain ⟨hle', hsize'⟩ := ihb hb hsize
      exact ⟨Nat.le_trans hle hle', hsize'⟩
  | alt a b iha ihb => exact h.elim (iha · hi) (ihb · hi)
  | repetition n min max greedy ih =>
      obtain ⟨more, -, hcopies⟩ := h
      exact hcopies.stays (fun _ _ hi h => ih h hi) hi

/-! ### Walks -/

namespace Walk

variable {T : Nat → Nat → Prop}

/-- Whether the copies among `A` that a walk has begun are finished: of each, all that `T` has
behind it has been reached. -/
def Finished (T : Nat → Nat → Prop) (A : Nat → Prop) (w : Walk) : Prop :=
  ∀ q, A q → w.begun.contains q → ∀ j, T q j → Ends w.reached j

/-- What a part of a walk does: it forgets nothing, and finishes the copies that it begins. -/
structure Advances (T : Nat → Nat → Prop) (w w' : Walk) : Prop where
  reached  : ∀ j, Ends w.reached j → Ends w'.reached j
  begun    : ∀ q, w.begun.contains q → w'.begun.contains q
  finished : ∀ q, w'.begun.contains q → w.begun.contains q ∨ ∀ j, T q j → Ends w'.reached j

namespace Advances

variable {w w' w'' : Walk}

theorem refl (w : Walk) : Advances T w w := ⟨fun _ => id, fun _ => id, fun _ => .inl⟩

theorem trans (h : Advances T w w') (h' : Advances T w' w'') : Advances T w w'' where
  reached j hj := h'.reached j (h.reached j hj)
  begun q hq := h'.begun q (h.begun q hq)
  finished q hq := by
    rcases h'.finished q hq with hq | hdone
    · exact (h.finished q hq).imp_right fun hdone j hj => h'.reached j (hdone j hj)
    · exact .inr hdone

theorem push (s : State) (w : Walk) : Advances T w { w with reached := s :: w.reached } :=
  ⟨fun _ hj => ends_cons.2 (.inr hj), fun _ => id, fun _ => .inl⟩

/-- What was finished remains so. -/
theorem keeps {A : Nat → Prop} (h : Advances T w w') (hw : Finished T A w) :
    Finished T A w' := by
  intro q hq hmark j hj
  rcases h.finished q hmark with hmark | hdone
  · exact h.reached j (hw q hq hmark j hj)
  · exact hdone j hj

end Advances

/-- A walk that begins a copy finishes it, if what it does on the way finishes the rest. -/
theorem advances_endAround {greedy : Bool} {s : State} {goOn : Walk → Walk} {w : Walk} {key : Nat}
    (h : ∀ v : Walk, (∀ j, Ends w.reached j → Ends v.reached j) →
      v.begun = w.begun.insert key →
      Advances T v (goOn v) ∧ ∀ j, T key j → s.pos = j ∨ Ends (goOn v).reached j) :
    Advances T w (endAround greedy s goOn { w with begun := w.begun.insert key }) ∧
      ∀ j, T key j →
        Ends (endAround greedy s goOn { w with begun := w.begun.insert key }).reached j := by
  have whole : ∀ v w' : Walk, (∀ j, Ends w.reached j → Ends v.reached j) →
      v.begun = w.begun.insert key → Advances T v w' → (∀ j, T key j → Ends w'.reached j) →
      Advances T w w' ∧ ∀ j, T key j → Ends w'.reached j := by
    intro v w' hreached hbegun hv hkey
    refine ⟨⟨fun j hj => hv.reached j (hreached j hj), fun q hq => hv.begun q ?_, fun q hq => ?_⟩,
      hkey⟩
    · rw [hbegun, Marks.contains_insert, hq, Bool.or_true]
    · rcases hv.finished q hq with hq | hdone
      · rw [hbegun, Marks.contains_insert, Bool.or_eq_true, decide_eq_true_eq] at hq
        rcases hq with rfl | hq
        · exact .inr hkey
        · exact .inl hq
      · exact .inr hdone
  cases greedy with
  | true =>
      obtain ⟨hgo, hkey⟩ := h { w with begun := w.begun.insert key } (fun _ => id) rfl
      exact whole ⟨w.reached, w.begun.insert key⟩ _ (fun _ => id) rfl (hgo.trans (.push s _))
        fun j hj => ends_cons.2 (hkey j hj)
  | false =>
      have hpush : ∀ j, Ends w.reached j → Ends (s :: w.reached) j :=
        fun j hj => ends_cons.2 (.inr hj)
      obtain ⟨hgo, hkey⟩ := h ⟨s :: w.reached, w.begun.insert key⟩ hpush rfl
      refine whole _ _ hpush rfl hgo fun j hj => ?_
      rcases hkey j hj with hs | hend
      · exact hgo.reached j (ends_cons.2 (.inl hs))
      · exact hend

/-- One part of a walk after another, each of which finds what the earlier ones have left. -/
theorem advances_foldl {f : Walk → State → Walk} {Inv : Walk → Prop} {U : State → Nat → Prop}
    (hInv : ∀ w w', Advances T w w' → Inv w → Inv w') {ss : List State}
    (h : ∀ s ∈ ss, ∀ w, Inv w → Advances T w (f w s) ∧ ∀ j, U s j → Ends (f w s).reached j)
    {w : Walk} (hw : Inv w) :
    Advances T w (ss.foldl f w) ∧ ∀ s ∈ ss, ∀ j, U s j → Ends (ss.foldl f w).reached j := by
  induction ss generalizing w with
  | nil => exact ⟨.refl w, by simp⟩
  | cons s ss ih =>
      obtain ⟨hs, hss⟩ := List.forall_mem_cons.1 h
      obtain ⟨hfirst, hU⟩ := hs w hw
      obtain ⟨hrest, hUs⟩ := ih hss (hInv _ _ hfirst hw)
      exact ⟨hfirst.trans hrest,
        List.forall_mem_cons.2 ⟨fun j hj => hrest.reached j (hU j hj), hUs⟩⟩

end Walk

/-- Whether a step on states goes where a relation leads, within a text of `size` characters. -/
structure Realizes (size : Nat) (R : Nat → Nat → Prop) (step : State → List State) : Prop where
  ends  : ∀ s, s.pos ≤ size → ∀ j, Ends (step s) j ↔ R s.pos j
  stays : ∀ i j, i ≤ size → R i j → i ≤ j ∧ j ≤ size

namespace Realizes

variable {size : Nat} {R : Nat → Nat → Prop} {step : State → List State}

/-- The successors of a state are where the relation leads. -/
theorem of_mem (h : Realizes size R step) {s t : State} (hs : s.pos ≤ size) (ht : t ∈ step s) :
    R s.pos t.pos ∧ s.pos ≤ t.pos ∧ t.pos ≤ size :=
  have hR := (h.ends s hs _).1 ⟨t, ht, rfl⟩
  ⟨hR, h.stays _ _ hs hR⟩

theorem stays_copies (h : Realizes size R step) {count i j : Nat} (hi : i ≤ size)
    (hcopies : Copies R count i j) : i ≤ j ∧ j ≤ size :=
  hcopies.stays (fun _ _ => h.stays _ _) hi

theorem ends_exactly (h : Realizes size R step) (count : Nat) {ss : List State}
    (hss : ∀ s ∈ ss, s.pos ≤ size) (j : Nat) :
    Ends (exactly step count ss) j ↔ ∃ s ∈ ss, Copies R count s.pos j := by
  induction count generalizing ss with
  | zero =>
      have hexactly : exactly step 0 ss = ss := by cases ss <;> rfl
      rw [hexactly]
      refine exists_congr fun s => and_congr_right fun _ => ⟨fun hj => hj ▸ .none s.pos, ?_⟩
      rintro ⟨⟩
      rfl
  | succ count ih =>
      have hexactly : exactly step (count + 1) ss = exactly step count (forEach step ss) := by
        cases ss with
        | nil => cases count <;> rfl
        | cons s ss => rfl
      rw [hexactly, ih]
      · constructor
        · rintro ⟨t, ht, hrest⟩
          obtain ⟨s, hs, ht⟩ := mem_forEach ht
          exact ⟨s, hs, .more (h.of_mem (hss s hs) ht).1 hrest⟩
        · rintro ⟨s, hs, hcopies⟩
          cases hcopies with
          | more first rest =>
              obtain ⟨t, ht, rfl⟩ := ends_forEach.2 ⟨s, hs, (h.ends s (hss s hs) _).2 first⟩
              exact ⟨t, ht, rest⟩
      · intro t ht
        obtain ⟨s, hs, ht⟩ := mem_forEach ht
        exact (h.of_mem (hss s hs) ht).2.2

/-! A walk through up to a number of copies. -/

/-- What is behind the copy with the given key: all that as many copies lead to as may follow. -/
def Behind (size : Nat) (R : Nat → Nat → Prop) (key j : Nat) : Prop :=
  ∃ count ≤ key / (size + 1) + 1, Copies R count (key % (size + 1)) j

theorem behind_copy {count i j : Nat} (hi : i ≤ size) :
    Behind size R (count * (size + 1) + i) j ↔ ∃ k ≤ count + 1, Copies R k i j := by
  have hlt : i < size + 1 := Nat.lt_succ_of_le hi
  rw [Behind, Nat.mul_comm, Nat.mul_add_div (Nat.succ_pos size), Nat.mul_add_mod,
    Nat.div_eq_of_lt hlt, Nat.mod_eq_of_lt hlt, Nat.add_zero]

theorem advances_upTo (h : Realizes size R step) (greedy : Bool) (count : Nat) (w : Walk)
    (s : State) (hs : s.pos ≤ size)
    (hw : w.Finished (Behind size R) (· < count * (size + 1))) :
    Walk.Advances (Behind size R) w (Walk.upTo size step greedy count w s) ∧
      ∀ j, (∃ k ≤ count, Copies R k s.pos j) →
        Ends (Walk.upTo size step greedy count w s).reached j := by
  induction count generalizing w s with
  | zero =>
      refine ⟨.push s w, ?_⟩
      rintro j ⟨k, hk, hcopies⟩
      obtain rfl := Nat.le_zero.1 hk
      cases hcopies
      exact ends_cons.2 (.inl rfl)
  | succ count ih =>
      have hkey : count * (size + 1) + s.pos < (count + 1) * (size + 1) := by
        rw [Nat.succ_mul]
        omega
      simp only [← behind_copy hs]
      simp only [Walk.upTo]
      split
      case isTrue hmark => exact ⟨.refl w, fun j => hw _ hkey hmark j⟩
      case isFalse =>
        refine Walk.advances_endAround fun v hreached hbegun => ?_
        have hv : v.Finished (Behind size R) (· < count * (size + 1)) := by
          intro q hq hmark j hj
          rw [hbegun, Marks.contains_insert, Bool.or_eq_true, decide_eq_true_eq] at hmark
          rcases hmark with rfl | hmark
          · omega
          · exact hreached j (hw q (by rw [Nat.succ_mul]; omega) hmark j hj)
        obtain ⟨hadv, hends⟩ := Walk.advances_foldl (fun _ _ hadv hw => hadv.keeps hw)
          (fun t ht v hv => ih v t (h.of_mem hs ht).2.2 hv) hv
        refine ⟨hadv, fun j hj => ?_⟩
        obtain ⟨k, hk, hcopies⟩ := (behind_copy hs).1 hj
        cases hcopies with
        | none => exact .inl rfl
        | more first rest =>
            obtain ⟨t, ht, rfl⟩ := (h.ends s hs _).2 first
            exact .inr (hends t ht j ⟨_, Nat.le_of_succ_le_succ hk, rest⟩)

/-- A walk ends nowhere but behind the state from which it sets out. -/
theorem forall_reached_upTo {P : Nat → Prop} (h : Realizes size R step) (greedy : Bool)
    (count : Nat) (w : Walk) (s : State) (hs : s.pos ≤ size)
    (hP : ∀ k ≤ count, ∀ j, Copies R k s.pos j → P j) (hw : ∀ t ∈ w.reached, P t.pos) :
    ∀ t ∈ (Walk.upTo size step greedy count w s).reached, P t.pos := by
  have hpush : P s.pos := hP 0 (Nat.zero_le count) _ (.none s.pos)
  induction count generalizing w s with
  | zero => exact List.forall_mem_cons.2 ⟨hpush, hw⟩
  | succ count ih =>
      simp only [Walk.upTo]
      split
      · exact hw
      · refine forall_reached_endAround (P := fun t => P t.pos) hpush hw fun w hw => ?_
        refine List.foldlRecOn (motive := fun v : Walk => ∀ t ∈ v.reached, P t.pos)
          (step s) _ hw
          fun v hv t ht => ?_
        obtain ⟨hR, -, ht⟩ := h.of_mem hs ht
        have hPt : ∀ k ≤ count, ∀ j, Copies R k t.pos j → P j :=
          fun k hk j hcopies => hP (k + 1) (Nat.succ_le_succ hk) j (.more hR hcopies)
        exact ih v t ht hPt hv (hPt 0 (Nat.zero_le count) _ (.none t.pos))

theorem ends_atMost (h : Realizes size R step) (greedy : Bool) (count : Nat) {s : State}
    (hs : s.pos ≤ size) (j : Nat) :
    Ends (atMost size step greedy count s) j ↔ ∃ k ≤ count, Copies R k s.pos j := by
  have hreverse : ∀ w : Walk, Ends w.outcomes j ↔ Ends w.reached j := fun w => by
    simp [Ends, Walk.outcomes]
  rw [atMost, ends_firstAtEach, hreverse]
  constructor
  · rintro ⟨t, ht, rfl⟩
    exact h.forall_reached_upTo (P := fun j => ∃ k ≤ count, Copies R k s.pos j) greedy count {} s
      hs (fun k hk j hcopies => ⟨k, hk, hcopies⟩) (by simp) t ht
  · refine (h.advances_upTo greedy count {} s hs fun q _ hq => ?_).2 j
    rw [Marks.contains_empty] at hq
    cases hq

/-! A walk through any number of further copies. -/

/-- What is behind a position on a walk that began at `start`: where it began, the walk goes no
further. -/
def Onward (R : Nat → Nat → Prop) (start i j : Nat) : Prop :=
  if i = start then j = start else ∃ count, Copies R count i j

theorem advances_onward (h : Realizes size R step) (greedy : Bool) {start : Nat} (room : Nat)
    (w : Walk) (s : State) (hs : s.pos ≤ size) (hstart : start ≤ s.pos)
    (hroom : size - s.pos < room) (hw : w.Finished (Onward R start) (s.pos ≤ ·)) :
    Walk.Advances (Onward R start) w (Walk.onward step greedy start room w s) ∧
      ∀ j, Onward R start s.pos j → Ends (Walk.onward step greedy start room w s).reached j := by
  induction room generalizing w s with
  | zero => omega
  | succ room ih =>
      simp only [Walk.onward]
      split
      case isTrue hmark => exact ⟨.refl w, hw s.pos (Nat.le_refl _) hmark⟩
      case isFalse =>
        refine Walk.advances_endAround fun v hreached hbegun => ?_
        split
        case isTrue heq =>
          refine ⟨.refl v, fun j hj => .inl ?_⟩
          rw [Onward, if_pos heq] at hj
          exact heq.trans hj.symm
        case isFalse hne =>
          have hv : v.Finished (Onward R start) (s.pos < ·) ∧ v.begun.contains s.pos := by
            refine ⟨fun q hq hmark j hj => ?_, ?_⟩
            · rw [hbegun, Marks.contains_insert, Bool.or_eq_true, decide_eq_true_eq] at hmark
              rcases hmark with rfl | hmark
              · exact absurd hq (Nat.lt_irrefl _)
              · exact hreached j (hw q (Nat.le_of_lt hq) hmark j hj)
            · rw [hbegun, Marks.contains_insert, decide_eq_true rfl, Bool.true_or]
          have hgo : ∀ t ∈ step s, ∀ v : Walk,
              v.Finished (Onward R start) (s.pos < ·) ∧ v.begun.contains s.pos →
              Walk.Advances (Onward R start) v (Walk.onward step greedy start room v t) ∧
                ∀ j, t.pos ≠ s.pos ∧ Onward R start t.pos j →
                  Ends (Walk.onward step greedy start room v t).reached j := by
            rintro t ht v ⟨hv, hmark⟩
            obtain ⟨-, hle, hsize⟩ := h.of_mem hs ht
            by_cases heq : t.pos = s.pos
            · -- a copy of no length leads back to where one has been begun
              have hsame : Walk.onward step greedy start room v t = v := by
                cases room with
                | zero => rfl
                | succ room => rw [Walk.onward, if_pos (heq ▸ hmark)]
              rw [hsame]
              exact ⟨.refl v, fun j hj => absurd heq hj.1⟩
            · have hlt : s.pos < t.pos := Nat.lt_of_le_of_ne hle (Ne.symm heq)
              obtain ⟨hadv, hends⟩ := ih v t hsize (by omega) (by omega)
                fun q hq => hv q (Nat.lt_of_lt_of_le hlt hq)
              exact ⟨hadv, fun j hj => hends j hj.2⟩
          obtain ⟨hadv, hends⟩ := Walk.advances_foldl
            (fun _ _ hadv hv => ⟨hadv.keeps hv.1, hadv.begun _ hv.2⟩) hgo hv
          refine ⟨hadv, fun j hj => ?_⟩
          rw [Onward, if_neg hne] at hj
          obtain ⟨count, hcopies⟩ := hj
          rcases hcopies.leave with hj | ⟨i, hR, hleft, rest⟩
          · exact .inl hj
          · obtain ⟨t, ht, rfl⟩ := (h.ends s hs i).2 hR
            have hle := (h.of_mem hs ht).2.1
            refine .inr (hends t ht j ⟨hleft, ?_⟩)
            rw [Onward, if_neg (by omega)]
            exact rest

/-- Copies lead on from the position that the first of them leads to, or from a later one, where
that has led nowhere. -/
theorem exists_onward {count i j : Nat} (h : Copies R (count + 1) i j) :
    ∃ k, R i k ∧ Onward R i k j := by
  cases h with
  | @more _ _ k _ first rest =>
      by_cases hk : k = i
      · subst hk
        rcases rest.leave with rfl | ⟨k', hR, hne, rest⟩
        · exact ⟨k, first, by rw [Onward, if_pos rfl]⟩
        · exact ⟨k', hR, by rw [Onward, if_neg hne]; exact rest⟩
      · exact ⟨k, first, by rw [Onward, if_neg hk]; exact ⟨count, rest⟩⟩

theorem ends_oneOrMore (h : Realizes size R step) (greedy : Bool) {s : State} (hs : s.pos ≤ size)
    (j : Nat) :
    Ends (oneOrMore size step greedy s) j ↔ ∃ count, Copies R (count + 1) s.pos j := by
  have hreverse : ∀ w : Walk, Ends w.outcomes j ↔ Ends w.reached j := fun w => by
    simp [Ends, Walk.outcomes]
  rw [oneOrMore, hreverse]
  constructor
  · rintro ⟨t, ht, rfl⟩
    have hstep : ∀ u, (u.pos ≤ size ∧ ∃ count, Copies R (count + 1) s.pos u.pos) →
        ∀ v ∈ step u, v.pos ≤ size ∧ ∃ count, Copies R (count + 1) s.pos v.pos := by
      rintro u ⟨hu, count, hcopies⟩ v hv
      obtain ⟨hR, -, hsize⟩ := h.of_mem hu hv
      exact ⟨hsize, count + 1, hcopies.trans (.more hR (.none v.pos))⟩
    have hfirst : ∀ u ∈ step s, u.pos ≤ size ∧ ∃ count, Copies R (count + 1) s.pos u.pos := by
      intro u hu
      obtain ⟨hR, -, hsize⟩ := h.of_mem hs hu
      exact ⟨hsize, 0, .more hR (.none u.pos)⟩
    exact (forall_reached_foldl hfirst (by simp)
      (forall_reached_onward hstep greedy s.pos (size - s.pos + 1)) t ht).2
  · rintro ⟨count, hcopies⟩
    have hgo : ∀ t ∈ step s, ∀ w : Walk, w.Finished (Onward R s.pos) (s.pos ≤ ·) →
        Walk.Advances (Onward R s.pos) w
            (Walk.onward step greedy s.pos (size - s.pos + 1) w t) ∧
          ∀ j, Onward R s.pos t.pos j →
            Ends (Walk.onward step greedy s.pos (size - s.pos + 1) w t).reached j := by
      intro t ht w hw
      obtain ⟨-, hle, hsize⟩ := h.of_mem hs ht
      exact h.advances_onward greedy _ w t hsize hle (by omega)
        fun q hq => hw q (Nat.le_trans hle hq)
    obtain ⟨k, hR, hj⟩ := exists_onward hcopies
    obtain ⟨t, ht, rfl⟩ := (h.ends s hs k).2 hR
    refine (Walk.advances_foldl (fun _ _ hadv hw => hadv.keeps hw) hgo ?_).2 t ht j hj
    intro q _ hq
    rw [Marks.contains_empty] at hq
    cases hq

theorem ends_zeroOrMore (h : Realizes size R step) (greedy : Bool) {s : State} (hs : s.pos ≤ size)
    (j : Nat) :
    Ends (zeroOrMore size step greedy s) j ↔ ∃ count, Copies R count s.pos j := by
  have hsplit : (∃ count, Copies R count s.pos j) ↔
      s.pos = j ∨ Ends (oneOrMore size step greedy s) j := by
    rw [h.ends_oneOrMore greedy hs]
    constructor
    · rintro ⟨count, hcopies⟩
      cases hcopies with
      | none => exact .inl rfl
      | more first rest => exact .inr ⟨_, .more first rest⟩
    · rintro (rfl | ⟨count, hcopies⟩)
      · exact ⟨0, .none s.pos⟩
      · exact ⟨count + 1, hcopies⟩
  rw [hsplit, zeroOrMore]
  split
  · split
    case isTrue hany =>
      refine ⟨.inr, fun hj => hj.elim (fun hj => ?_) id⟩
      obtain ⟨t, ht, htj⟩ := List.any_eq_true.1 hany
      exact ⟨t, ht, (of_decide_eq_true htj).trans hj⟩
    case isFalse => rw [ends_append, ends_cons, or_comm, or_iff_left (ends_nil j)]
  · rw [ends_cons]
    by_cases hj : s.pos = j
    · exact iff_of_true (.inl hj) (.inl hj)
    · refine or_congr_right ⟨?_, ?_⟩
      · rintro ⟨t, ht, rfl⟩
        exact ⟨t, (List.mem_filter.1 ht).1, rfl⟩
      · rintro ⟨t, ht, rfl⟩
        exact ⟨t, List.mem_filter.2 ⟨ht, decide_eq_true (Ne.symm hj)⟩, rfl⟩

/-- A number of steps, and then steps of another kind. -/
theorem ends_forEach_exactly (h : Realizes size R step) {f : State → List State}
    {B : Nat → Nat → Prop} (hf : ∀ t, t.pos ≤ size → ∀ j, Ends (f t) j ↔ B t.pos j) (count : Nat)
    {s : State} (hs : s.pos ≤ size) (j : Nat) :
    Ends (forEach f (exactly step count [s])) j ↔ ∃ k, Copies R count s.pos k ∧ B k j := by
  have hone : ∀ t ∈ [s], t.pos ≤ size := by simpa using hs
  have hexactly : ∀ k, Ends (exactly step count [s]) k ↔ Copies R count s.pos k := fun k => by
    rw [h.ends_exactly count hone]
    simp
  rw [ends_forEach]
  constructor
  · rintro ⟨t, ht, hj⟩
    have hcopies := (hexactly t.pos).1 ⟨t, ht, rfl⟩
    exact ⟨t.pos, hcopies, (hf t (h.stays_copies hs hcopies).2 j).1 hj⟩
  · rintro ⟨k, hcopies, hj⟩
    obtain ⟨t, ht, rfl⟩ := (hexactly k).2 hcopies
    exact ⟨t, ht, (hf t (h.stays_copies hs hcopies).2 j).2 hj⟩

theorem ends_repeatStep (h : Realizes size R step) (min : Nat) (max : Option Nat) (greedy : Bool)
    {s : State} (hs : s.pos ≤ size) (j : Nat) :
    Ends (repeatStep size step min max greedy s) j ↔
      ∃ more, (∀ m ∈ max, more ≤ m - min) ∧ Copies R (min + more) s.pos j := by
  unfold repeatStep
  split
  case h_1 max =>
    rw [h.ends_forEach_exactly (B := fun k j => ∃ more ≤ max - min, Copies R more k j)
      (fun t ht => h.ends_atMost greedy (max - min) ht) min hs]
    constructor
    · rintro ⟨k, hmin, more, hle, hmore⟩
      exact ⟨more, by simpa using hle, hmin.trans hmore⟩
    · rintro ⟨more, hle, hcopies⟩
      obtain ⟨k, hmin, hmore⟩ := hcopies.cut
      exact ⟨k, hmin, more, by simpa using hle, hmore⟩
  case h_2 => simp [h.ends_zeroOrMore greedy hs]
  case h_3 min =>
    rw [h.ends_forEach_exactly (B := fun k j => ∃ more, Copies R (more + 1) k j)
      (fun t ht => h.ends_oneOrMore greedy ht) min hs]
    constructor
    · rintro ⟨k, hmin, more, hmore⟩
      refine ⟨more, by simp, ?_⟩
      rw [Nat.succ_add_eq_add_succ]
      exact hmin.trans hmore
    · rintro ⟨more, -, hcopies⟩
      rw [Nat.succ_add_eq_add_succ] at hcopies
      obtain ⟨k, hmin, hmore⟩ : ∃ k, Copies R min s.pos k ∧ Copies R (more + 1) k j := hcopies.cut
      exact ⟨k, hmin, more, hmore⟩

end Realizes

namespace Node

variable {text : Array Char}

theorem ends_consume? {p : Char → Bool} {ss : List State} {j : Nat} :
    Ends (ss.filterMap (State.consume? text p)) j ↔
      ∃ s ∈ ss, text[s.pos]?.any p ∧ s.pos + 1 = j := by
  simp only [Ends, List.mem_filterMap]
  constructor
  · rintro ⟨t, ⟨s, hs, ht⟩, rfl⟩
    unfold State.consume? at ht
    split at ht
    case isTrue h => exact ⟨s, hs, h, congrArg State.pos (Option.some.inj ht)⟩
    case isFalse => cases ht
  · rintro ⟨s, hs, h, rfl⟩
    exact ⟨{ s with pos := s.pos + 1 }, ⟨s, hs, if_pos h⟩, rfl⟩

/-- A step that goes where a node leads, on states that lie within the text. -/
theorem ends_of_realizes {f : State → List State} {R : Nat → Nat → Prop}
    (h : ∀ s, s.pos ≤ text.size → ∀ j, Ends (f s) j ↔ R s.pos j) {ss : List State}
    (hss : ∀ s ∈ ss, s.pos ≤ text.size) (j : Nat) :
    Ends (forEach f ss) j ↔ ∃ s ∈ ss, R s.pos j := by
  rw [ends_forEach]
  exact exists_congr fun s => and_congr_right fun hs => h s (hss s hs) j

/-- **The matcher ends just where the node leads.** -/
theorem ends_advance (n : Node) {ss : List State} (hss : ∀ s ∈ ss, s.pos ≤ text.size) (j : Nat) :
    Ends (n.advance text ss) j ↔ ∃ s ∈ ss, n.Reaches text s.pos j := by
  -- from one state at a time, as most nodes go on
  have one : ∀ {m : Node}, (∀ ss : List State, (∀ s ∈ ss, s.pos ≤ text.size) → ∀ j,
      (Ends (m.advance text ss) j ↔ ∃ s ∈ ss, m.Reaches text s.pos j)) →
      Realizes text.size (m.Reaches text) fun s => m.advance text [s] := fun {m} h =>
    ⟨fun s hs j => by rw [h [s] (by simpa using hs)]; simp, fun i j hi hj => hj.stays hi⟩
  induction n generalizing ss j with
  | empty => simp [Ends, Reaches]
  | char c =>
      rw [advance_char, ends_consume?]
      simp [Reaches, Option.any_eq_true]
  | set cs =>
      rw [advance_set, ends_consume?]
      rfl
  | look l =>
      simp only [advance_look, Ends, List.mem_filter, Reaches, and_assoc]
  | group index name n ih =>
      rw [advance_group]
      refine ends_of_realizes (fun s hs j => ?_) hss j
      refine Iff.trans ?_ ((one fun ss hss j => ih hss j).ends s hs j)
      constructor
      · rintro ⟨t, ht, rfl⟩
        obtain ⟨u, hu, rfl⟩ := List.mem_map.1 ht
        exact ⟨u, hu, rfl⟩
      · rintro ⟨u, hu, rfl⟩
        exact ⟨u.capture index s.pos, List.mem_map.2 ⟨u, hu, rfl⟩, rfl⟩
  | cat a b iha ihb =>
      have hmid : ∀ t ∈ a.advance text ss, t.pos ≤ text.size := fun t ht => by
        obtain ⟨s, hs, hk⟩ := (iha hss t.pos).1 ⟨t, ht, rfl⟩
        exact (hk.stays (hss s hs)).2
      rw [advance_cat]
      refine (ihb hmid j).trans ⟨?_, ?_⟩
      · rintro ⟨t, ht, hj⟩
        obtain ⟨s, hs, hk⟩ := (iha hss t.pos).1 ⟨t, ht, rfl⟩
        exact ⟨s, hs, t.pos, hk, hj⟩
      · rintro ⟨s, hs, k, hk, hj⟩
        obtain ⟨t, ht, rfl⟩ := (iha hss k).2 ⟨s, hs, hk⟩
        exact ⟨t, ht, hj⟩
  | alt a b iha ihb =>
      rw [advance_alt]
      refine ends_of_realizes (fun s hs j => ?_) hss j
      rw [ends_firstAtEach, ends_append]
      exact or_congr ((one fun ss hss j => iha hss j).ends s hs j)
        ((one fun ss hss j => ihb hss j).ends s hs j)
  | repetition n min max greedy ih =>
      rw [advance_repetition]
      refine ends_of_realizes (fun s hs j => ?_) hss j
      exact (one fun ss hss j => ih hss j).ends_repeatStep min max greedy hs j

/-- An expression that begins at the start of a text matches if it leads anywhere from there. -/
theorem isSome_search? {n : Node} (hn : n.isAnchored = true) :
    (n.search? text).isSome ↔ ∃ j, n.Reaches text 0 j := by
  have hhead : ∀ ss : List State, ss.head?.isSome ↔ ∃ j, Ends ss j := by
    intro ss
    cases ss with
    | nil => simp [Ends]
    | cons s ss => exact iff_of_true rfl ⟨s.pos, s, List.mem_cons_self, rfl⟩
  have hstart : ∀ s ∈ [(⟨0, []⟩ : State)], s.pos ≤ text.size := by simp
  rw [search?, if_pos hn, matchAt?, Option.isSome_map, hhead]
  refine exists_congr fun j => ?_
  rw [ends_advance n hstart]
  simp

/-! ### Numbers of groups, and surrounding text -/

theorem reaches_renumber (f : Nat → Nat) (n : Node) :
    (n.renumber f).Reaches text = n.Reaches text := by
  induction n with
  | empty | char _ | set _ | look _ => rfl
  | group index name n ih => exact ih
  | cat a b iha ihb | alt a b iha ihb => simp only [renumber, Reaches, iha, ihb]
  | repetition n min max greedy ih => simp only [renumber, Reaches, ih]

/-- Whether a node looks at the text around it. -/
def looksAround : Node → Bool
  | .empty | .char _ | .set _ => false
  | .look _                   => true
  | .group _ _ n              => n.looksAround
  | .cat a b | .alt a b       => a.looksAround || b.looksAround
  | .repetition n _ _ _       => n.looksAround

theorem looksAround_renumber (f : Nat → Nat) (n : Node) :
    (n.renumber f).looksAround = n.looksAround := by
  induction n with
  | empty | char _ | set _ | look _ => rfl
  | group index name n ih => exact ih
  | cat a b iha ihb | alt a b iha ihb => simp only [renumber, looksAround, iha, ihb]
  | repetition n min max greedy ih => exact ih

/-- **What does not look around matches in every text** that has the same characters there. -/
theorem Reaches.shift {text' : Array Char} {n : Node} {p i j : Nat}
    (htext : ∀ k c, text[k]? = some c → text'[p + k]? = some c) (hn : n.looksAround = false)
    (h : n.Reaches text i j) : n.Reaches text' (p + i) (p + j) := by
  induction n generalizing i j with
  | empty => exact congrArg (p + ·) h
  | char c =>
      obtain ⟨hc, rfl⟩ := h
      exact ⟨htext i c hc, Nat.add_assoc p i 1⟩
  | set cs =>
      obtain ⟨hc, rfl⟩ := h
      obtain ⟨c, hc, hin⟩ := (Option.any_eq_true _ _).1 hc
      exact ⟨(Option.any_eq_true _ _).2 ⟨c, htext i c hc, hin⟩, Nat.add_assoc p i 1⟩
  | look l => cases hn
  | group index name n ih => exact ih hn h
  | cat a b iha ihb =>
      obtain ⟨ha, hb⟩ := Bool.or_eq_false_iff.1 hn
      obtain ⟨k, hk, hj⟩ := h
      exact ⟨p + k, iha ha hk, ihb hb hj⟩
  | alt a b iha ihb =>
      obtain ⟨ha, hb⟩ := Bool.or_eq_false_iff.1 hn
      exact h.imp (iha ha) (ihb hb)
  | repetition n min max greedy ih =>
      obtain ⟨more, hmore, hcopies⟩ := h
      refine ⟨more, hmore, ?_⟩
      generalize min + more = count at hcopies
      induction hcopies with
      | none => exact .none _
      | more first _ rest => exact .more (ih hn first) rest

end Node

end Signpost.Regex
