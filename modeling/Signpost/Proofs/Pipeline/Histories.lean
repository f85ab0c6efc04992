import Mathlib.Data.List.Induction
import Signpost.Proofs.Pipeline.Turns

/-!
# Pipelines — histories

What happens to a dispatch is a history of moves: it is polled, and whatever its middlewares have
left to others is run and polled by them, at any time.  What its stage tells of its history
(`Dispatch.Tells`) is kept by each move, and so it holds after all.

* `Dispatch.move_cases`: what a move can do.
* `Dispatch.tells_after`: what the stage tells after a history.
* `Dispatch.observed_cases`: the stages that are seen after the turns of a dispatch.
* `Dispatch.rest?_after_eq_none_iff`: when a dispatch can no longer be polled.
-/

namespace Signpost

namespace Stage

/-- Events change the stage only if the end of the chain is reached. -/
theorem foldl_after_of_not_mem (s : Stage) {es : List Event} (h : Event.reachEnd ∉ es) :
    es.foldl after s = s := by
  induction es generalizing s with
  | nil => rfl
  | cons e es ih =>
      rw [List.mem_cons, not_or] at h
      have hafter : s.after e = s := by
        cases e with
        | reachEnd => exact absurd rfl h.1
        | effect | run | keep => rfl
      rw [List.foldl_cons, hafter, ih s h.2]

theorem foldl_after_eq_completed {s : Stage} {es : List Event} :
    es.foldl after s = .completed ↔ s = .completed ∨ .reachEnd ∈ es := by
  induction es generalizing s with
  | nil => simp
  | cons e es ih =>
      rw [List.foldl_cons, ih, List.mem_cons, ← or_assoc]
      cases e with
      | reachEnd => simp [after]
      | effect | run | keep => simp [after]

end Stage

namespace Dispatch

variable {d : Dispatch} {m : Move} {moves more : List Move} {t : Work Event Reply}

/-- A dispatch that has not been polled. -/
abbrev fresh (t : Work Event Reply) : Dispatch := { rest? := some t }

/-- The dispatch after a history. -/
def after (d : Dispatch) (moves : List Move) : Dispatch := moves.foldl move d

/-- All that happens in a history. -/
def trace : Dispatch → List Move → List Event
  | _, []         => []
  | d, m :: moves => d.events m ++ (d.move m).trace moves

/-- The stage that is seen after a move, if it is a turn of the dispatch. -/
def seen (d : Dispatch) : Move → List Stage
  | .poll => d.poll?.elim [] fun turn => [turn.dispatch.stage]
  | _     => []

/-- The stages that are seen after the turns of a dispatch. -/
def observed : Dispatch → List Move → List Stage
  | _, []         => []
  | d, m :: moves => d.seen m ++ (d.move m).observed moves

theorem after_append (d : Dispatch) (moves more : List Move) :
    d.after (moves ++ more) = (d.after moves).after more := List.foldl_append

theorem after_concat (d : Dispatch) (moves : List Move) (m : Move) :
    d.after (moves ++ [m]) = (d.after moves).move m := d.after_append moves [m]

theorem trace_append (d : Dispatch) (moves more : List Move) :
    d.trace (moves ++ more) = d.trace moves ++ (d.after moves).trace more := by
  induction moves generalizing d with
  | nil => rfl
  | cons m moves ih => rw [List.cons_append, trace, ih, trace, List.append_assoc]; rfl

theorem trace_concat (d : Dispatch) (moves : List Move) (m : Move) :
    d.trace (moves ++ [m]) = d.trace moves ++ (d.after moves).events m := by
  rw [trace_append, trace, trace, List.append_nil]

theorem observed_concat (d : Dispatch) (moves : List Move) (m : Move) :
    d.observed (moves ++ [m]) = d.observed moves ++ (d.after moves).seen m := by
  induction moves generalizing d with
  | nil => exact List.append_nil _
  | cons m' moves ih => rw [List.cons_append, observed, ih, observed, List.append_assoc]; rfl

/-! ### What a move can do -/

/-- What a turn has done to a dispatch that had not finished. -/
inductive Polls (d : Dispatch) (t : Work Event Reply) : Dispatch → Option Outcome → Prop
  | pending {rest : Work Event Reply} (h : t.poll.2 = .pending rest) :
      Polls d t ⟨stageAfter d.stage t.poll.1, some rest,
        d.kept ++ t.poll.1.filterMap Event.kept?⟩ none
  | ready {reply : Reply} (h : t.poll.2 = .ready reply) :
      Polls d t ⟨(stageAfter d.stage t.poll.1).finished, none,
        d.kept ++ t.poll.1.filterMap Event.kept?⟩
        (some ⟨reply, (stageAfter d.stage t.poll.1).finished⟩)

theorem exists_polls (h : d.rest? = some t) : ∃ d' o?, d.Polls t d' o? ∧ d.move .poll = d' ∧
    d.poll? = some ⟨d', Event.notes t.poll.1, o?⟩ ∧ d.events .poll = t.poll.1 ∧
    d.seen .poll = [d'.stage] := by
  obtain ⟨s, rest?, kept⟩ := d
  obtain rfl : rest? = some t := h
  cases hpoll : t.poll.2 with
  | pending rest =>
      have hturn : poll? ⟨s, some t, kept⟩ = _ := poll?_of_pending (Prod.ext rfl hpoll)
      refine ⟨_, _, .pending hpoll, ?_, hturn, rfl, ?_⟩
      · simp only [move, hturn]
        rfl
      · simp only [seen, hturn]
        rfl
  | ready reply =>
      have hturn : poll? ⟨s, some t, kept⟩ = _ := poll?_of_ready (Prod.ext rfl hpoll)
      refine ⟨_, _, .ready hpoll, ?_, hturn, rfl, ?_⟩
      · simp only [move, hturn]
        rfl
      · simp only [seen, hturn]
        rfl

/-- **A move** is a turn of the dispatch, or it leaves alone what is left of it. -/
theorem move_cases (d : Dispatch) (m : Move) :
    (m = .poll ∧ ∃ t, d.rest? = some t) ∨
      (d.move m = { d with kept := d.left m }.heed (d.events m) ∧ d.seen m = [] ∧
        (m = .poll → d.rest? = none)) := by
  cases m with
  | poll =>
      cases h : d.rest? with
      | some t => exact .inl ⟨rfl, t, rfl⟩
      | none =>
          have hpoll : d.poll? = none := d.poll?_eq_none_iff.2 h
          refine .inr ⟨?_, by simp only [seen, hpoll]; rfl, fun _ => rfl⟩
          obtain ⟨s, rest?, kept⟩ := d
          obtain rfl : rest? = none := h
          simp [move, hpoll, events, left, heed]
  | pollKept i => exact .inr ⟨rfl, rfl, Move.noConfusion⟩
  | runKept i r => exact .inr ⟨rfl, rfl, Move.noConfusion⟩

/-- Where nothing has been left to others, they can do nothing. -/
theorem events_of_kept_eq_nil (h : d.kept = []) (hm : m ≠ .poll) :
    d.events m = [] ∧ d.left m = [] := by
  cases m with
  | poll => exact absurd rfl hm
  | pollKept i | runKept i => simp [events, left, h]

/-! ### What the stage tells -/

/-- What the stage of a dispatch tells of its history. -/
structure Tells (d : Dispatch) (moves : List Move) (trace : List Event) : Prop where
  pending   : d.stage = .pending ↔ .poll ∉ moves
  live      : d.stage = .pending ∨ d.stage = .running → d.rest?.isSome
  finished  : d.stage = .shortCircuited → d.rest? = none
  completed : d.stage = .completed ↔ .reachEnd ∈ trace
  /-- Nothing can have been left to others before the first turn. -/
  unkept    : .poll ∉ moves → d.kept = []

theorem tells_fresh (t : Work Event Reply) : (fresh t).Tells [] [] where
  pending := iff_of_true rfl List.not_mem_nil
  live := fun _ => rfl
  finished := fun h => nomatch h
  completed := iff_of_false (fun h => nomatch h) List.not_mem_nil
  unkept := fun _ => rfl

namespace Tells

variable {trace : List Event}

/-- The stages of a dispatch that has finished. -/
theorem stage_of_finished (hd : d.Tells moves trace) (h : d.rest? = none) :
    d.stage = .completed ∨ d.stage = .shortCircuited := by
  have hnot : ¬(d.stage = .pending ∨ d.stage = .running) := by
    intro hs
    have hsome := hd.live hs
    rw [h] at hsome
    cases hsome
  cases hs : d.stage with
  | pending => exact absurd (.inl hs) hnot
  | running => exact absurd (.inr hs) hnot
  | shortCircuited => exact .inr rfl
  | completed => exact .inl rfl

/-- The stage after a turn is never pending. -/
theorem polls (hd : d.Tells moves trace) (ht : d.rest? = some t) {d' : Dispatch}
    {o? : Option Outcome} (h : d.Polls t d' o?) :
    d'.Tells (moves ++ [.poll]) (trace ++ t.poll.1) := by
  have hpolled : Move.poll ∈ moves ++ [.poll] := by simp
  -- the turn begins in a stage that is not too late
  have hresumed : d.stage.resumed = .running ∨ d.stage.resumed = .completed := by
    cases hs : d.stage with
    | pending | running => exact .inl rfl
    | completed => exact .inr rfl
    | shortCircuited => cases (hd.finished hs).symm.trans ht
  have hcompleted : stageAfter d.stage t.poll.1 = .completed ↔ .reachEnd ∈ trace ++ t.poll.1 := by
    rw [stageAfter, Stage.foldl_after_eq_completed, List.mem_append, ← hd.completed]
    refine or_congr_left ?_
    cases d.stage <;> simp [Stage.resumed]
  have hafter : stageAfter d.stage t.poll.1 = .running ∨
      stageAfter d.stage t.poll.1 = .completed := by
    by_cases hend : Event.reachEnd ∈ t.poll.1
    · exact .inr (hcompleted.2 (List.mem_append_right _ hend))
    · rw [stageAfter, Stage.foldl_after_of_not_mem _ hend]
      exact hresumed
  cases h with
  | pending hpending =>
      generalize stageAfter d.stage t.poll.1 = s at hafter hcompleted ⊢
      refine ⟨iff_of_false ?_ (not_not_intro hpolled), fun _ => rfl, ?_, hcompleted, ?_⟩
      · rcases hafter with rfl | rfl <;> exact Stage.noConfusion
      · rcases hafter with rfl | rfl <;> exact Stage.noConfusion
      · exact fun h => absurd hpolled h
  | ready hready =>
      generalize stageAfter d.stage t.poll.1 = s at hafter hcompleted ⊢
      refine ⟨iff_of_false ?_ (not_not_intro hpolled), ?_, fun _ => rfl, ?_, ?_⟩
      · rcases hafter with rfl | rfl <;> exact Stage.noConfusion
      · rcases hafter with rfl | rfl <;> rintro (h | h) <;> cases h
      · rw [← hcompleted]
        rcases hafter with rfl | rfl <;> simp [Stage.finished]
      · exact fun h => absurd hpolled h

/-- **Each move keeps it.** -/
theorem move (hd : d.Tells moves trace) (m : Move) :
    (d.move m).Tells (moves ++ [m]) (trace ++ d.events m) := by
  rcases d.move_cases m with ⟨rfl, t, ht⟩ | ⟨hmove, -, hfinished⟩
  · obtain ⟨d', o?, hpolls, hmove, -, hevents, -⟩ := exists_polls ht
    rw [hmove, hevents]
    exact hd.polls ht hpolls
  · have hpoll : .poll ∈ moves ++ [m] ↔ .poll ∈ moves ∨ m = .poll := by
      rw [List.mem_append, List.mem_singleton, eq_comm]
    -- before the first turn, nothing can be done but to poll
    have hfresh : .poll ∉ moves ++ [m] →
        d.stage = .pending ∧ d.kept = [] ∧ d.events m = [] ∧ d.left m = [] := by
      rw [hpoll, not_or]
      rintro ⟨hnot, hm⟩
      have hkept := hd.unkept hnot
      exact ⟨hd.pending.2 hnot, hkept, events_of_kept_eq_nil hkept hm⟩
    have hpending : d.stage = .pending → .poll ∉ moves ++ [m] := by
      intro hs
      rw [hpoll, not_or]
      refine ⟨hd.pending.1 hs, ?_⟩
      rintro rfl
      have hsome := hd.live (.inl hs)
      rw [hfinished rfl] at hsome
      cases hsome
    -- the stage stays as it is, unless the end of the chain is reached
    have hsame : ∀ s, s ≠ .completed →
        (d.events m).foldl Stage.after d.stage = s → d.stage = s := by
      rintro s hne rfl
      by_cases hend : Event.reachEnd ∈ d.events m
      · exact absurd (Stage.foldl_after_eq_completed.2 (.inr hend)) hne
      · exact (Stage.foldl_after_of_not_mem _ hend).symm
    rw [hmove]
    constructor
    case pending =>
      refine ⟨fun h => hpending (hsame _ Stage.noConfusion h), fun h => ?_⟩
      obtain ⟨hs, -, hevents, -⟩ := hfresh h
      rw [heed, hevents]
      exact hs
    case live =>
      exact fun h => hd.live (h.imp (hsame _ Stage.noConfusion) (hsame _ Stage.noConfusion))
    case finished => exact fun h => hd.finished (hsame _ Stage.noConfusion h)
    case completed =>
      rw [List.mem_append, ← hd.completed]
      exact Stage.foldl_after_eq_completed
    case unkept =>
      intro h
      obtain ⟨-, -, hevents, hleft⟩ := hfresh h
      rw [heed, hevents, hleft]
      rfl

end Tells

/-- **What the stage tells**, after any history. -/
theorem tells_after (t : Work Event Reply) (moves : List Move) :
    ((fresh t).after moves).Tells moves
      ((fresh t).trace moves) := by
  induction moves using List.reverseRecOn with
  | nil => exact tells_fresh t
  | append_singleton moves m ih =>
      rw [after_concat, trace_concat]
      exact ih.move m

/-! ### The turns of a dispatch -/

/-- The next turn of the dispatch has its result. -/
def IsReady (d : Dispatch) : Prop := ∃ turn o, d.poll? = some turn ∧ turn.outcome? = some o

/-- A dispatch has finished after a move if it had before, or if the move is the turn that has the
result. -/
theorem rest?_move_eq_none_iff :
    (d.move m).rest? = none ↔ d.rest? = none ∨ m = .poll ∧ d.IsReady := by
  rcases d.move_cases m with ⟨rfl, t, ht⟩ | ⟨hmove, -, hfinished⟩
  · obtain ⟨d', o?, hpolls, hmove, hturn, -⟩ := exists_polls ht
    rw [hmove, ht]
    cases hpolls with
    | pending h =>
        refine iff_of_false (fun h => nomatch h) ?_
        rintro (h | ⟨-, turn, o, hturn', ho⟩)
        · cases h
        · obtain rfl := Option.some.inj (hturn.symm.trans hturn')
          cases ho
    | ready h => exact iff_of_true rfl (.inr ⟨rfl, _, _, hturn, rfl⟩)
  · rw [hmove]
    refine ⟨.inl, fun h => h.elim id ?_⟩
    rintro ⟨rfl, turn, o, hturn, -⟩
    cases hturn.symm.trans (d.poll?_eq_none_iff.2 (hfinished rfl))

/-- **The end of a dispatch**: it cannot be polled when an earlier turn has had the result. -/
theorem rest?_after_eq_none_iff (h : d.rest?.isSome) (moves : List Move) :
    (d.after moves).rest? = none ↔
      ∃ before behind, moves = before ++ .poll :: behind ∧ (d.after before).IsReady := by
  induction moves using List.reverseRecOn with
  | nil =>
      refine iff_of_false (fun hnone => ?_) ?_
      · rw [after, List.foldl_nil] at hnone
        rw [hnone] at h
        cases h
      · rintro ⟨before, behind, hmoves, -⟩
        simp at hmoves
  | append_singleton moves m ih =>
      rw [after_concat, rest?_move_eq_none_iff, ih]
      constructor
      · rintro (⟨before, behind, rfl, hready⟩ | ⟨rfl, hready⟩)
        · exact ⟨before, behind ++ [m], by simp, hready⟩
        · exact ⟨moves, [], rfl, hready⟩
      · rintro ⟨before, behind, hmoves, hready⟩
        rcases List.eq_nil_or_concat behind with rfl | ⟨behind, m', rfl⟩
        · obtain ⟨rfl, hm⟩ := List.append_inj' hmoves rfl
          exact .inr ⟨List.singleton_inj.1 hm, hready⟩
        · rw [List.concat_eq_append, ← List.cons_append, ← List.append_assoc] at hmoves
          obtain ⟨rfl, -⟩ := List.append_inj' hmoves rfl
          exact .inl ⟨before, behind, rfl, hready⟩

/-- A dispatch that is polled often enough finishes. -/
theorem exists_rest?_after_eq_none (t : Work Event Reply) (s : Stage) (kept : List (Kept Event)) :
    ∃ turns, ((⟨s, some t, kept⟩ : Dispatch).after (.replicate turns .poll)).rest? = none := by
  obtain ⟨turn, hturn, houtcome⟩ := exists_outcome s t kept
  have hpolled : ∀ (d : Dispatch) (k : Nat), d.polled k = d.after (.replicate k .poll) := by
    intro d k
    induction k generalizing d with
    | zero => rfl
    | succ k ih => exact ih d.next
  rw [turn?, hpolled] at hturn
  refine ⟨t.waits + 1, (rest?_after_eq_none_iff rfl _).2 ⟨.replicate t.waits .poll, [], ?_, ?_⟩⟩
  · rw [List.replicate_succ']
  · exact ⟨turn, _, hturn, houtcome⟩

/-- A dispatch stays completed. -/
theorem stage_after_of_completed (t : Work Event Reply) (moves more : List Move) :
    let d := fresh t
    (d.after moves).stage = .completed → (d.after (moves ++ more)).stage = .completed := by
  intro d h
  have hmem := (tells_after t moves).completed.1 h
  refine (tells_after t (moves ++ more)).completed.2 ?_
  rw [trace_append]
  exact List.mem_append_left _ hmem

/-- **The stages that are seen after the turns** of a dispatch. -/
theorem observed_cases (t : Work Event Reply) (moves : List Move) :
    let d := fresh t
    (∃ a b, d.observed moves = .replicate a .running ++ .replicate b .completed ∧
      (0 < b → (d.after moves).stage = .completed) ∧
      ((d.after moves).rest? = none → 0 < b)) ∨
    ∃ a, d.observed moves = .replicate a .running ++ [.shortCircuited] ∧
      (d.after moves).rest? = none := by
  intro d
  induction moves using List.reverseRecOn with
  | nil => exact .inl ⟨0, 0, rfl, fun h => absurd h (Nat.lt_irrefl 0), fun h => nomatch h⟩
  | append_singleton moves m ih =>
      rw [observed_concat]
      rcases (d.after moves).move_cases m with ⟨rfl, t', ht⟩ | ⟨hmove, hseen, -⟩
      · obtain ⟨d', o?, -, hmove, -, -, hseen⟩ := exists_polls ht
        have hd' : d.after (moves ++ [.poll]) = d' := (after_concat d moves .poll).trans hmove
        have htells := tells_after t (moves ++ [.poll])
        rw [hd'] at htells
        rw [hseen, hd']
        rcases ih with ⟨a, b, hobserved, hcompleted, -⟩ | ⟨a, -, hnone⟩
        · rw [hobserved]
          -- a dispatch that is not completed has not been before
          have hnever : d'.stage ≠ .completed → b = 0 := by
            intro hne
            refine Nat.eq_zero_of_not_pos fun hb => hne ?_
            rw [← hd']
            exact stage_after_of_completed t moves [.poll] (hcompleted hb)
          cases hs : d'.stage with
          | completed =>
              refine .inl ⟨a, b + 1, ?_, fun _ => rfl, fun _ => Nat.succ_pos b⟩
              rw [List.replicate_succ', List.append_assoc]
          | pending =>
              have hnot := htells.pending.1 hs
              exact absurd (List.mem_append_right _ (List.mem_singleton_self _)) hnot
          | running =>
              obtain rfl := hnever (by rw [hs]; exact Stage.noConfusion)
              refine .inl ⟨a + 1, 0, by simp [List.replicate_succ'],
                fun h => absurd h (Nat.lt_irrefl 0), fun hnone => ?_⟩
              have hsome := htells.live (.inr hs)
              rw [hnone] at hsome
              cases hsome
          | shortCircuited =>
              obtain rfl := hnever (by rw [hs]; exact Stage.noConfusion)
              exact .inr ⟨a, by simp, htells.finished hs⟩
        · cases hnone.symm.trans ht
      · have hrest : (d.after (moves ++ [m])).rest? = (d.after moves).rest? := by
          rw [after_concat, hmove]
          rfl
        rw [hseen, List.append_nil, hrest]
        refine ih.imp_left ?_
        rintro ⟨a, b, hobserved, hcompleted, hfinished⟩
        exact ⟨a, b, hobserved, fun hb => stage_after_of_completed t moves [m] (hcompleted hb),
          hfinished⟩

end Dispatch

end Signpost
