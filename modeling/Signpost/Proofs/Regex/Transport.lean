import Signpost.Regex.Match

/-!
# Regex — matching is independent of numbers and of what came before

How a node matches depends on the text and on the position at which it begins, and not on the
numbers of its groups or on the spans that have been captured before.

`State.embed f base` gives the groups of a state other numbers and puts spans underneath its own;
it keeps the position.  What keeps positions goes through every step of the matcher: through the
choice of the first state at each position, and through the walks of repetitions.

* `Node.advance_embed`: a node with other numbers, from states with other numbers and more spans,
  ends in the states of the original, with these numbers and spans.
* `forall_mem_repeatStep`: a property of states that a step keeps is kept by its repetition.
* `Node.spans_mem_advance`: the spans of these states are those from before and spans of groups of
  the node.
-/

namespace Signpost.Regex

open State (firstUnmarked firstAtEach forEach)

/-! ### Maps of states that keep the position -/

section Maps

variable {g : State → State} (hg : ∀ s, (g s).pos = s.pos)
include hg

theorem firstUnmarked_map (seen : Marks) (ss : List State) :
    firstUnmarked seen (ss.map g) = (firstUnmarked seen ss).map g := by
  induction ss generalizing seen with
  | nil => rfl
  | cons s ss ih =>
      simp only [List.map_cons, firstUnmarked, hg]
      split
      · exact ih seen
      · rw [List.map_cons, ih]

theorem firstAtEach_map (ss : List State) : firstAtEach (ss.map g) = (firstAtEach ss).map g :=
  firstUnmarked_map hg .empty ss

theorem forEach_map {f f' : State → List State} (hf : ∀ s, f' (g s) = (f s).map g) :
    ∀ ss, forEach f' (ss.map g) = (forEach f ss).map g
  | []           => rfl
  | [s]          => hf s
  | s :: s' :: ss => by
      have h : ((s :: s' :: ss).map g).flatMap f' = ((s :: s' :: ss).flatMap f).map g := by
        rw [List.flatMap_map, List.map_flatMap]
        simp only [hf]
      simp only [List.map_cons] at h
      simp only [forEach, List.map_cons]
      rw [h, firstAtEach_map hg]

variable {step step' : State → List State} (hstep : ∀ s, step' (g s) = (step s).map g)
include hstep

theorem exactly_map (count : Nat) (ss : List State) :
    exactly step' count (ss.map g) = (exactly step count ss).map g := by
  induction count generalizing ss with
  | zero => cases ss <;> rfl
  | succ count ih =>
      cases ss with
      | nil => rfl
      | cons s ss => exact (congrArg _ (forEach_map hg hstep (s :: ss))).trans (ih _)

/-- A walk whose states are mapped. -/
def Walk.map (g : State → State) (w : Walk) : Walk := { w with reached := w.reached.map g }

omit hg hstep in
@[simp] theorem Walk.begun_map (w : Walk) : (w.map g).begun = w.begun := rfl

omit hg hstep in
theorem endAround_map (greedy : Bool) (s : State) {goOn goOn' : Walk → Walk}
    (h : ∀ w : Walk, goOn' (w.map g) = (goOn w).map g) (w : Walk) :
    Walk.endAround greedy (g s) goOn' (w.map g) = (Walk.endAround greedy s goOn w).map g := by
  cases greedy with
  | true => simp only [Walk.endAround, if_true, h]; rfl
  | false => exact h { w with reached := s :: w.reached }

omit hg hstep in
theorem foldl_map_walk {f f' : Walk → State → Walk}
    (h : ∀ w s, f' (w.map g) (g s) = (f w s).map g) (w : Walk) (ss : List State) :
    (ss.map g).foldl f' (w.map g) = (ss.foldl f w).map g := by
  induction ss generalizing w with
  | nil => rfl
  | cons s ss ih => rw [List.map_cons, List.foldl_cons, h, ih, List.foldl_cons]

theorem upTo_map (size : Nat) (greedy : Bool) (count : Nat) (w : Walk) (s : State) :
    Walk.upTo size step' greedy count (w.map g) (g s) =
      (Walk.upTo size step greedy count w s).map g := by
  induction count generalizing w s with
  | zero => rfl
  | succ count ih =>
      simp only [Walk.upTo, hg, Walk.begun_map]
      split
      · rfl
      · refine endAround_map greedy s (fun w => ?_) { w with begun := w.begun.insert _ }
        rw [hstep]
        exact foldl_map_walk ih w (step s)

theorem onward_map (greedy : Bool) (start room : Nat) (w : Walk) (s : State) :
    Walk.onward step' greedy start room (w.map g) (g s) =
      (Walk.onward step greedy start room w s).map g := by
  induction room generalizing w s with
  | zero => rfl
  | succ room ih =>
      simp only [Walk.onward, hg, Walk.begun_map]
      split
      · rfl
      · refine endAround_map greedy s (fun w => ?_) { w with begun := w.begun.insert _ }
        split
        · rfl
        · rw [hstep]
          exact foldl_map_walk ih w (step s)

omit hg hstep in
theorem outcomes_map (w : Walk) : (w.map g).outcomes = w.outcomes.map g :=
  List.map_reverse.symm

theorem atMost_map (size : Nat) (greedy : Bool) (count : Nat) (s : State) :
    atMost size step' greedy count (g s) = (atMost size step greedy count s).map g := by
  rw [atMost, show ({} : Walk) = Walk.map g {} from rfl, upTo_map hg hstep, outcomes_map,
    firstAtEach_map hg]
  rfl

theorem oneOrMore_map (size : Nat) (greedy : Bool) (s : State) :
    oneOrMore size step' greedy (g s) = (oneOrMore size step greedy s).map g := by
  rw [oneOrMore, show ({} : Walk) = Walk.map g {} from rfl, hstep, hg,
    foldl_map_walk (onward_map hg hstep greedy s.pos (size - s.pos + 1)), outcomes_map]
  rfl

theorem zeroOrMore_map (size : Nat) (greedy : Bool) (s : State) :
    zeroOrMore size step' greedy (g s) = (zeroOrMore size step greedy s).map g := by
  simp only [zeroOrMore, oneOrMore_map hg hstep, List.any_map, List.filter_map, hg,
    Function.comp_def]
  split
  · split <;> simp
  · simp

theorem repeatStep_map (size min : Nat) (max : Option Nat) (greedy : Bool) (s : State) :
    repeatStep size step' min max greedy (g s) =
      (repeatStep size step min max greedy s).map g := by
  have start : [g s] = [s].map g := rfl
  unfold repeatStep
  split
  · rw [start, exactly_map hg hstep]
    exact forEach_map hg (atMost_map hg hstep size greedy _) _
  · exact zeroOrMore_map hg hstep size greedy s
  · rw [start, exactly_map hg hstep]
    exact forEach_map hg (oneOrMore_map hg hstep size greedy) _

end Maps

/-! ### Properties that steps keep -/

theorem mem_of_mem_firstUnmarked {seen : Marks} {ss : List State} {t : State}
    (h : t ∈ firstUnmarked seen ss) : t ∈ ss := by
  induction ss generalizing seen with
  | nil => simp [firstUnmarked] at h
  | cons s ss ih =>
      unfold firstUnmarked at h
      split at h
      · exact List.mem_cons_of_mem s (ih h)
      · rcases List.mem_cons.1 h with rfl | h
        · exact List.mem_cons_self
        · exact List.mem_cons_of_mem s (ih h)

theorem mem_of_mem_firstAtEach {ss : List State} {t : State} (h : t ∈ firstAtEach ss) :
    t ∈ ss :=
  mem_of_mem_firstUnmarked h

theorem mem_forEach {f : State → List State} {ss : List State} {t : State}
    (h : t ∈ forEach f ss) : ∃ s ∈ ss, t ∈ f s := by
  match ss with
  | [] => simp [forEach, firstAtEach, firstUnmarked] at h
  | [s] => exact ⟨s, List.mem_singleton_self s, h⟩
  | s :: s' :: ss => exact List.mem_flatMap.1 (mem_of_mem_firstAtEach h)

section Closure

variable {P : State → Prop} {step : State → List State} (hstep : ∀ s, P s → ∀ t ∈ step s, P t)
include hstep

theorem forall_mem_exactly (count : Nat) {ss : List State} (hss : ∀ s ∈ ss, P s) :
    ∀ t ∈ exactly step count ss, P t := by
  induction count generalizing ss with
  | zero => cases ss <;> exact hss
  | succ count ih =>
      cases ss with
      | nil => exact hss
      | cons s ss =>
          refine ih fun t ht => ?_
          obtain ⟨s', hs', ht⟩ := mem_forEach ht
          exact hstep s' (hss s' hs') t ht

omit hstep in
theorem forall_reached_endAround {greedy : Bool} {s : State} {goOn : Walk → Walk} {w : Walk}
    (hs : P s) (hw : ∀ t ∈ w.reached, P t)
    (h : ∀ w : Walk, (∀ t ∈ w.reached, P t) → ∀ t ∈ (goOn w).reached, P t) :
    ∀ t ∈ (Walk.endAround greedy s goOn w).reached, P t := by
  cases greedy with
  | true => exact List.forall_mem_cons.2 ⟨hs, h w hw⟩
  | false => exact h { w with reached := s :: w.reached } (List.forall_mem_cons.2 ⟨hs, hw⟩)

omit hstep in
theorem forall_reached_foldl {f : Walk → State → Walk} {w : Walk} {ss : List State}
    (hss : ∀ s ∈ ss, P s) (hw : ∀ t ∈ w.reached, P t)
    (h : ∀ w s, P s → (∀ t ∈ w.reached, P t) → ∀ t ∈ (f w s).reached, P t) :
    ∀ t ∈ (ss.foldl f w).reached, P t := by
  induction ss generalizing w with
  | nil => exact hw
  | cons s ss ih =>
      obtain ⟨hs, hss⟩ := List.forall_mem_cons.1 hss
      exact ih hss (h w s hs hw)

theorem forall_reached_upTo (size : Nat) (greedy : Bool) (count : Nat) (w : Walk) (s : State)
    (hs : P s) (hw : ∀ t ∈ w.reached, P t) :
    ∀ t ∈ (Walk.upTo size step greedy count w s).reached, P t := by
  induction count generalizing w s with
  | zero => exact List.forall_mem_cons.2 ⟨hs, hw⟩
  | succ count ih =>
      simp only [Walk.upTo]
      split
      · exact hw
      · refine forall_reached_endAround hs hw fun w hw => ?_
        exact forall_reached_foldl (hstep s hs) hw ih

theorem forall_reached_onward (greedy : Bool) (start room : Nat) (w : Walk) (s : State)
    (hs : P s) (hw : ∀ t ∈ w.reached, P t) :
    ∀ t ∈ (Walk.onward step greedy start room w s).reached, P t := by
  induction room generalizing w s with
  | zero => exact hw
  | succ room ih =>
      unfold Walk.onward
      split
      · exact hw
      · refine forall_reached_endAround hs hw fun w hw => ?_
        split
        · exact hw
        · exact forall_reached_foldl (hstep s hs) hw ih

theorem forall_mem_oneOrMore (size : Nat) (greedy : Bool) {s : State} (hs : P s) :
    ∀ t ∈ oneOrMore size step greedy s, P t := by
  intro t ht
  exact forall_reached_foldl (hstep s hs) (by simp)
    (forall_reached_onward hstep greedy s.pos (size - s.pos + 1)) t (List.mem_reverse.1 ht)

theorem forall_mem_repeatStep (size min : Nat) (max : Option Nat) (greedy : Bool) {s : State}
    (hs : P s) : ∀ t ∈ repeatStep size step min max greedy s, P t := by
  have start : ∀ t ∈ [s], P t := by simpa using hs
  intro t ht
  unfold repeatStep at ht
  split at ht
  · obtain ⟨u, hu, ht⟩ := mem_forEach ht
    exact forall_reached_upTo hstep size greedy _ {} u (forall_mem_exactly hstep _ start u hu)
      (by simp) t (List.mem_reverse.1 (mem_of_mem_firstAtEach ht))
  · have more := forall_mem_oneOrMore hstep size greedy hs
    unfold zeroOrMore at ht
    simp only at ht
    split at ht
    · split at ht
      · exact more t ht
      · rcases List.mem_append.1 ht with ht | ht
        · exact more t ht
        · exact start t ht
    · rcases List.mem_cons.1 ht with rfl | ht
      · exact hs
      · exact more t (List.mem_filter.1 ht).1
  · obtain ⟨u, hu, ht⟩ := mem_forEach ht
    exact forall_mem_oneOrMore hstep size greedy (forall_mem_exactly hstep _ start u hu) t ht

end Closure

/-! ### Other numbers, and earlier spans -/

/-- The node with other numbers for its groups. -/
def Node.renumber (f : Nat → Nat) : Node → Node
  | .group index name n      => .group (f index) name (n.renumber f)
  | .cat a b                 => .cat (a.renumber f) (b.renumber f)
  | .alt a b                 => .alt (a.renumber f) (b.renumber f)
  | .repetition n min max gr => .repetition (n.renumber f) min max gr
  | n                        => n

/-- The state with other numbers for its groups, on top of earlier spans. -/
def State.embed (f : Nat → Nat) (base : List (Nat × Span)) (s : State) : State :=
  ⟨s.pos, s.spans.map (fun p => (f p.1, p.2)) ++ base⟩

@[simp] theorem State.pos_embed (f : Nat → Nat) (base : List (Nat × Span)) (s : State) :
    (s.embed f base).pos = s.pos := rfl

namespace Node

variable (text : Array Char)

/-! The equations of `advance`, which hold without a state as well. -/

@[simp] theorem advance_nil (n : Node) : n.advance text [] = [] := by
  cases n <;> rfl

@[simp] theorem advance_empty (ss : List State) : Node.empty.advance text ss = ss := by
  cases ss <;> rfl

@[simp] theorem advance_char (c : Char) (ss : List State) :
    (Node.char c).advance text ss = ss.filterMap (State.consume? text (· == c)) := by
  cases ss <;> rfl

@[simp] theorem advance_set (cs : CharSet) (ss : List State) :
    (Node.set cs).advance text ss = ss.filterMap (State.consume? text cs.contains) := by
  cases ss <;> rfl

@[simp] theorem advance_look (l : Look) (ss : List State) :
    (Node.look l).advance text ss = ss.filter fun s => l.holdsAt text s.pos := by
  cases ss <;> rfl

theorem advance_group (index : Nat) (name : Option String) (n : Node) (ss : List State) :
    (Node.group index name n).advance text ss =
      forEach (fun s => (n.advance text [s]).map (State.capture index s.pos)) ss := by
  cases ss <;> rfl

@[simp] theorem advance_cat (a b : Node) (ss : List State) :
    (Node.cat a b).advance text ss = b.advance text (a.advance text ss) := by
  cases ss with
  | nil => simp only [advance_nil]
  | cons => rfl

theorem advance_alt (a b : Node) (ss : List State) :
    (Node.alt a b).advance text ss =
      forEach (fun s => firstAtEach (a.advance text [s] ++ b.advance text [s])) ss := by
  cases ss <;> rfl

theorem advance_repetition (n : Node) (min : Nat) (max : Option Nat) (greedy : Bool)
    (ss : List State) :
    (Node.repetition n min max greedy).advance text ss =
      forEach (repeatStep text.size (fun s => n.advance text [s]) min max greedy) ss := by
  cases ss <;> rfl

theorem consume?_embed (f : Nat → Nat) (base : List (Nat × Span)) (p : Char → Bool) (s : State) :
    (s.embed f base).consume? text p = (s.consume? text p).map (State.embed f base) := by
  unfold State.consume?
  rw [State.pos_embed]
  split <;> rfl

/-- **Matching is independent of the numbers of groups and of earlier spans.** -/
theorem advance_embed (f : Nat → Nat) (base : List (Nat × Span)) (n : Node) (ss : List State) :
    (n.renumber f).advance text (ss.map (State.embed f base)) =
      (n.advance text ss).map (State.embed f base) := by
  have one : ∀ {a : Node} (s : State), (∀ ss : List State,
      (a.renumber f).advance text (ss.map (State.embed f base)) =
        (a.advance text ss).map (State.embed f base)) →
      (a.renumber f).advance text [s.embed f base] =
        (a.advance text [s]).map (State.embed f base) := fun s h => h [s]
  induction n generalizing ss with
  | empty => simp [renumber]
  | char c =>
      simp only [renumber, advance_char, List.filterMap_map, List.map_filterMap]
      congr 1; funext s; exact consume?_embed text f base _ s
  | set cs =>
      simp only [renumber, advance_set, List.filterMap_map, List.map_filterMap]
      congr 1; funext s; exact consume?_embed text f base _ s
  | look l => simp [renumber, List.filter_map, Function.comp_def]
  | group index name n ih =>
      rw [renumber, advance_group, advance_group]
      refine forEach_map (State.pos_embed f base) (fun s => ?_) ss
      rw [one s ih, List.map_map, List.map_map]
      rfl
  | cat a b iha ihb => rw [renumber, advance_cat, advance_cat, iha, ihb]
  | alt a b iha ihb =>
      rw [renumber, advance_alt, advance_alt]
      refine forEach_map (State.pos_embed f base) (fun s => ?_) ss
      rw [one s iha, one s ihb, ← List.map_append, firstAtEach_map (State.pos_embed f base)]
  | repetition n min max greedy ih =>
      rw [renumber, advance_repetition, advance_repetition]
      refine forEach_map (State.pos_embed f base) (fun s => ?_) ss
      exact repeatStep_map (State.pos_embed f base) (fun s => one s ih) text.size min max greedy s

theorem renumber_id (n : Node) : n.renumber id = n := by
  induction n with
  | group index name n ih => simp [renumber, ih]
  | cat a b iha ihb | alt a b iha ihb => simp [renumber, iha, ihb]
  | repetition n min max greedy ih => simp [renumber, ih]
  | empty | char _ | set _ | look _ => rfl

theorem renumber_renumber (f g : Nat → Nat) (n : Node) :
    (n.renumber f).renumber g = n.renumber (g ∘ f) := by
  induction n with
  | group index name n ih => simp [renumber, ih]
  | cat a b iha ihb | alt a b iha ihb => simp [renumber, iha, ihb]
  | repetition n min max greedy ih => simp [renumber, ih]
  | empty | char _ | set _ | look _ => rfl

/-- What a node makes of a state, from what it makes of the position alone. -/
theorem advance_singleton (f : Nat → Nat) (n : Node) (s : State) :
    (n.renumber f).advance text [s] =
      (n.advance text [⟨s.pos, []⟩]).map (State.embed f s.spans) := by
  rw [← advance_embed]
  rfl

/-! ### The spans that a node captures -/

/-- The numbers of the groups in a node. -/
def indices : Node → List Nat
  | .empty | .char _ | .set _ | .look _ => []
  | .group index _ n                    => index :: n.indices
  | .cat a b | .alt a b                 => a.indices ++ b.indices
  | .repetition n _ _ _                 => n.indices

/-- **What moving and capturing keep**, a node keeps. -/
theorem forall_mem_advance {P : State → Prop} {n : Node}
    (move : ∀ s pos, P s → P { s with pos := pos })
    (capture : ∀ i ∈ n.indices, ∀ start s, P s → P (s.capture i start)) {ss : List State}
    (hss : ∀ s ∈ ss, P s) : ∀ t ∈ n.advance text ss, P t := by
  -- the hypotheses speak of lists of states, and most nodes go on from one state at a time
  have one : ∀ {s : State}, P s → ∀ u ∈ [s], P u := fun h u hu => List.mem_singleton.1 hu ▸ h
  induction n generalizing ss with
  | empty => simpa using hss
  | char _ | set _ =>
      intro t ht
      simp only [advance_char, advance_set, List.mem_filterMap, State.consume?] at ht
      obtain ⟨s, hs, ht⟩ := ht
      split at ht
      · cases Option.some.inj ht
        exact move s (s.pos + 1) (hss s hs)
      · cases ht
  | look l =>
      intro t ht
      rw [advance_look] at ht
      exact hss t (List.mem_filter.1 ht).1
  | group index name n ih =>
      intro t ht
      rw [advance_group] at ht
      obtain ⟨s, hs, ht⟩ := mem_forEach ht
      obtain ⟨u, hu, rfl⟩ := List.mem_map.1 ht
      obtain ⟨hindex, hn⟩ := List.forall_mem_cons.1 capture
      exact hindex s.pos u (ih hn (one (hss s hs)) u hu)
  | cat a b iha ihb =>
      rw [advance_cat]
      exact ihb (fun i hi => capture i (List.mem_append_right _ hi))
        (iha (fun i hi => capture i (List.mem_append_left _ hi)) hss)
  | alt a b iha ihb =>
      intro t ht
      rw [advance_alt] at ht
      obtain ⟨s, hs, ht⟩ := mem_forEach ht
      rcases List.mem_append.1 (mem_of_mem_firstAtEach ht) with ht | ht
      · exact iha (fun i hi => capture i (List.mem_append_left _ hi)) (one (hss s hs)) t ht
      · exact ihb (fun i hi => capture i (List.mem_append_right _ hi)) (one (hss s hs)) t ht
  | repetition n min max greedy ih =>
      intro t ht
      rw [advance_repetition] at ht
      obtain ⟨s, hs, ht⟩ := mem_forEach ht
      exact forall_mem_repeatStep (fun s hs => ih capture (one hs)) text.size min max greedy
        (hss s hs) t ht

/-- The states in which a node ends have spans from before and spans of groups of the node. -/
theorem spans_mem_advance {A : Nat → Prop} {n : Node} (hn : ∀ i ∈ n.indices, A i)
    {ss : List State} (hss : ∀ s ∈ ss, ∀ p ∈ s.spans, A p.1) :
    ∀ t ∈ n.advance text ss, ∀ p ∈ t.spans, A p.1 :=
  forall_mem_advance text (P := fun s => ∀ p ∈ s.spans, A p.1) (fun _ _ hs => hs)
    (fun i hi _ _ hs => List.forall_mem_cons.2 ⟨hn i hi, hs⟩) hss

end Node

end Signpost.Regex
