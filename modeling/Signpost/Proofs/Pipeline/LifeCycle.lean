import Signpost.Proofs.Pipeline.Keeping
import Signpost.Proofs.Pipeline.Nesting

/-!
# Pipelines — the life cycle of a dispatch

A dispatch is pending until it is polled the first time.  From then on it is running, up to the time
at which the last link of the chain is run, and completed from there on; if that does not happen
before its last turn, it is short-circuited after it (`Dispatch.HasLifeCycle`).  The last turn is
the one that has the result, and there is no turn after it; to poll the dispatch again changes
nothing.

All of this holds whatever the middlewares do, and whenever others run or poll what has been left to
them.  If each middleware has used its link up, or dropped it, by the time it finishes, then there
is nothing left by which others could change the stage.  Where something is left, they can change it
in one way: if the last link is still run, the dispatch is completed after all
(`Pipeline.completed_of_keeping`).

* `Dispatch.hasLifeCycle`: the life cycle, by what reaches the end of the chain.
* `Dispatch.stage_after_of_final`: what has happened stays.
* `Conduct.run_last_mem_iff`: which requests go down to the last link.
* `Pipeline.hasLifeCycle_dispatch`: the life cycle of a request on its way through a pipeline.
-/

namespace Signpost

namespace Dispatch

/-- The life cycle of a dispatch through a chain whose last link has the index `last`. -/
structure HasLifeCycle (d : Dispatch) (last : Nat) : Prop where
  /-- A dispatch is pending until the first turn. -/
  pending : ∀ moves, (d.after moves).stage = .pending ↔ .poll ∉ moves
  /-- After its turns it is seen running for a while, and then completed; or it is short-circuited,
  and that is seen after its last turn only. -/
  observed : ∀ moves,
    (∃ a b, d.observed moves = .replicate a .running ++ .replicate b .completed ∧
      ((d.after moves).poll? = none → 0 < b)) ∨
    ∃ a, d.observed moves = .replicate a .running ++ [.shortCircuited] ∧
      (d.after moves).poll? = none
  /-- Once it is completed, it stays so. -/
  completed : ∀ moves more, (d.after moves).stage = .completed →
    (d.after (moves ++ more)).stage = .completed
  /-- Once it is short-circuited, it stays so unless somebody still runs the last link. -/
  shortCircuited : ∀ moves more, (d.after moves).stage = .shortCircuited →
    ((d.after (moves ++ more)).stage = .completed ↔ .run last ∈ (d.after moves).trace more) ∧
    ((d.after (moves ++ more)).stage = .shortCircuited ↔ .run last ∉ (d.after moves).trace more)
  /-- Once it is one or the other, to poll it does not change it. -/
  final : ∀ moves turns,
    (d.after moves).stage = .completed ∨ (d.after moves).stage = .shortCircuited →
      (d.after (moves ++ .replicate turns .poll)).stage = (d.after moves).stage
  /-- The outcome tells whether the last link has been run. -/
  outcome : ∀ moves turn o, (d.after moves).poll? = some turn → turn.outcome? = some o →
    o.stage = (d.after (moves ++ [.poll])).stage ∧
    (o.stage = .completed ↔ .run last ∈ d.trace (moves ++ [.poll])) ∧
    (o.stage = .shortCircuited ↔ .run last ∉ d.trace (moves ++ [.poll]))
  /-- It cannot be polled just when an earlier turn has had the result. -/
  ended : ∀ moves, (d.after moves).poll? = none ↔
    ∃ before behind, moves = before ++ .poll :: behind ∧ (d.after before).IsReady
  /-- It finishes when it is polled often enough. -/
  finishes : ∃ turns, (d.after (.replicate turns .poll)).poll? = none

variable {t : Work Event Reply} {last : Nat}

/-- The stage of a dispatch that has finished tells whether the end of the chain has been
reached. -/
theorem stage_of_finished {moves : List Move}
    (h : ((fresh t).after moves).rest? = none) :
    let d := fresh t
    ((d.after moves).stage = .completed ↔ .reachEnd ∈ d.trace moves) ∧
      ((d.after moves).stage = .shortCircuited ↔ .reachEnd ∉ d.trace moves) := by
  intro d
  have htells := tells_after t moves
  refine ⟨htells.completed, ?_⟩
  rw [← htells.completed]
  rcases htells.stage_of_finished h with hs | hs <;> rw [hs] <;> simp

/-- A dispatch that has finished stays as it is, as long as it is only polled, or as nothing has
been left to others. -/
theorem after_of_finished {d : Dispatch} {moves : List Move} (hrest : d.rest? = none)
    (h : d.kept = [] ∨ ∀ m ∈ moves, m = .poll) : d.after moves = d := by
  induction moves with
  | nil => rfl
  | cons m moves ih =>
      obtain ⟨s, rest?, kept⟩ := d
      obtain rfl : rest? = none := hrest
      have hmove : (⟨s, none, kept⟩ : Dispatch).move m = ⟨s, none, kept⟩ := by
        rcases h with rfl | h
        · cases m <;> rfl
        · rw [h m (List.mem_cons_self ..)]
          rfl
      rw [after, List.foldl_cons, hmove]
      exact ih (h.imp_right fun h m hm => h m (List.mem_cons_of_mem _ hm))

/-- A dispatch that has finished has finished for good. -/
theorem rest?_after_append_eq_none {moves : List Move} (more : List Move)
    (h : ((fresh t).after moves).rest? = none) :
    ((fresh t).after (moves ++ more)).rest? = none := by
  obtain ⟨before, behind, hmoves, hready⟩ := (rest?_after_eq_none_iff rfl moves).1 h
  exact (rest?_after_eq_none_iff rfl _).2 ⟨before, behind ++ more, by simp [hmoves], hready⟩

/-- An outcome has the stage in which its turn leaves the dispatch. -/
theorem stage_of_outcome {d : Dispatch} {turn : Turn} {o : Outcome} (hturn : d.poll? = some turn)
    (ho : turn.outcome? = some o) : o.stage = (d.move .poll).stage := by
  obtain ⟨t, ht⟩ : ∃ t, d.rest? = some t := by
    refine Option.ne_none_iff_exists'.1 fun h => ?_
    cases hturn.symm.trans ((poll?_eq_none_iff _).2 h)
  obtain ⟨d', o?, hpolls, hmove, hturn', -⟩ := exists_polls ht
  obtain rfl := Option.some.inj (hturn.symm.trans hturn')
  rw [hmove]
  cases hpolls with
  | pending => cases ho
  | ready =>
      obtain rfl := Option.some.inj ho
      rfl

/-- **The life cycle** of a dispatch that reaches the end of the chain by its last link. -/
theorem hasLifeCycle
    (hlast : ∀ moves, .reachEnd ∈ (fresh t).trace moves ↔
      .run last ∈ (fresh t).trace moves) :
    (fresh t).HasLifeCycle last where
  pending := fun moves => (tells_after t moves).pending
  observed := by
    intro moves
    simp only [poll?_eq_none_iff]
    refine (observed_cases t moves).imp_left ?_
    rintro ⟨a, b, hobserved, -, hfinished⟩
    exact ⟨a, b, hobserved, hfinished⟩
  completed := stage_after_of_completed t
  shortCircuited := by
    intro moves more h
    have htells := tells_after t moves
    have hnot : Event.reachEnd ∉ (fresh t).trace moves := by
      rw [← htells.completed, h]
      exact Stage.noConfusion
    have hmore : ∀ e, e ∈ (fresh t).trace (moves ++ more) ↔
        e ∈ (fresh t).trace moves ∨
          e ∈ ((fresh t).after moves).trace more := by
      intro e
      rw [trace_append, List.mem_append]
    have hnone := rest?_after_append_eq_none more (htells.finished h)
    have hend := (hmore .reachEnd).symm.trans ((hlast _).trans (hmore (.run last)))
    rw [or_iff_right hnot, or_iff_right ((hlast moves).not.1 hnot)] at hend
    obtain ⟨hcompleted, hshort⟩ := stage_of_finished hnone
    rw [hcompleted, hshort, hmore, or_iff_right hnot, hend]
    exact ⟨Iff.rfl, Iff.rfl⟩
  final := by
    rintro moves turns (h | h)
    · rw [h]
      exact stage_after_of_completed t moves _ h
    · have hover := (tells_after t moves).finished h
      rw [after_append, after_of_finished hover (.inr fun m hm => List.eq_of_mem_replicate hm)]
  outcome := by
    intro moves turn o hturn ho
    have hready : ((fresh t).after moves).IsReady := ⟨turn, o, hturn, ho⟩
    have hnone : ((fresh t).after (moves ++ [.poll])).rest? = none :=
      (rest?_after_eq_none_iff rfl _).2 ⟨moves, [], rfl, hready⟩
    have hstage : o.stage = ((fresh t).after (moves ++ [.poll])).stage := by
      rw [after_concat]
      exact stage_of_outcome hturn ho
    obtain ⟨hcompleted, hshort⟩ := stage_of_finished hnone
    rw [hstage, hcompleted, hshort, hlast]
    exact ⟨rfl, Iff.rfl, Iff.rfl⟩
  ended := by
    intro moves
    rw [poll?_eq_none_iff]
    exact rest?_after_eq_none_iff rfl moves
  finishes := by
    obtain ⟨turns, hnone⟩ := exists_rest?_after_eq_none t .pending []
    exact ⟨turns, (poll?_eq_none_iff _).2 hnone⟩

end Dispatch

/-! ### Middlewares that use their links up -/

namespace Dispatch

variable {p : Pipeline} {r : Request} {endpoint : Handler}

/-- **What has happened stays**: the last link has been run, or it is too late. -/
theorem stage_after_of_final (hspends : ∀ m ∈ p.middlewares, Middleware.SpendsLink m)
    (moves more : List Move) :
    let d := p.dispatch r endpoint
    (d.after moves).stage = .completed ∨ (d.after moves).stage = .shortCircuited →
      (d.after (moves ++ more)).stage = (d.after moves).stage := by
  rintro d (h | h)
  · rw [h]
    exact stage_after_of_completed _ moves more h
  · have hover : (d.after moves).rest? = none := (tells_after _ moves).finished h
    rw [after_append, after_of_finished hover (.inl (kept_after_eq_nil hspends moves))]

/-- What is left of a dispatch. -/
def ahead (d : Dispatch) : List Event := d.rest?.elim [] fun rest => rest.run.1

/-- What has happened, and what is left, is what a request does on its way. -/
theorem trace_append_ahead (hspends : ∀ m ∈ p.middlewares, Middleware.SpendsLink m)
    (moves : List Move) :
    let d := p.dispatch r endpoint
    d.trace moves ++ (d.after moves).ahead = (p.way r endpoint).run.1 := by
  intro d
  induction moves using List.reverseRecOn with
  | nil => rfl
  | append_singleton moves m ih =>
      rw [trace_concat, after_concat, List.append_assoc, ← ih, List.append_cancel_left_eq]
      rcases (d.after moves).move_cases m with ⟨rfl, t, ht⟩ | ⟨hmove, -, hfinished⟩
      · obtain ⟨d', o?, hpolls, hmove, -, hevents, -⟩ := exists_polls ht
        rw [hmove, hevents, ahead, ahead, ht]
        cases hpolls with
        | pending h =>
            rcases t.poll_cases with ⟨-, hpoll⟩ | ⟨es, rest, hpoll, -, hrun⟩
            · rw [hpoll] at h
              cases h
            · rw [hpoll] at h ⊢
              obtain rfl := Work.Progress.pending.inj h
              simp only [Option.elim_some, hrun]
        | ready h =>
            rcases t.poll_cases with ⟨-, hpoll⟩ | ⟨es, rest, hpoll, -, -⟩
            · rw [hpoll]
              exact List.append_nil _
            · rw [hpoll] at h
              cases h
      · have hevents : (d.after moves).events m = [] := by
          by_cases hm : m = .poll
          · subst hm
            rw [events, hfinished rfl]
            rfl
          · exact (events_of_kept_eq_nil (kept_after_eq_nil hspends moves) hm).1
        rw [hmove, hevents]
        rfl

end Dispatch

namespace Work

/-- A job runs no links. -/
theorem run_notMem_events {α : Type} (t : Job α) (i : Nat) : Event.run i ∉ t.events.run.1 := by
  rw [events, run_restrict]
  simp

end Work

theorem Plan.keeps_doing {α : Type} {h : Hold} {t : Job α} {p : α → Plan h}
    (hkeeps : (doing t p).Keeps) : ∃ a, (p a).Keeps := by
  induction t with
  | done a => exact ⟨a, hkeeps⟩
  | wait t ih => exact ih hkeeps
  | act e t ih => exact ih hkeeps

namespace Conduct

open Visit

theorem spendsLink (c : Conduct) : Middleware.SpendsLink c.middleware := by
  intro r link h
  obtain ⟨course, h⟩ := Plan.keeps_doing h
  cases course with
  | pass r' after =>
      obtain ⟨reply, h⟩ := h
      obtain ⟨reply, h⟩ := Plan.keeps_doing h
      exact h
  | decline own | abandon r' own =>
      obtain ⟨reply, h⟩ := Plan.keeps_doing h
      exact h

/-- **The last link is run** just when the request goes down to it. -/
theorem run_last_mem_iff (endpoint : Handler) (cs : List Conduct) (index : Nat) (r : Request) :
    .run (index + cs.length) ∈
        ((Next.chain endpoint index (cs.map middleware)).call r).whole.run.1 ↔
      RunsLastLink cs.length (visits index cs r) := by
  induction cs generalizing index r with
  | nil => exact iff_of_true (List.mem_cons_self ..) runsLastLink_nil
  | cons c cs ih =>
      have hrest : ∀ i, .run i ∈ ((Next.chain endpoint index ((c :: cs).map middleware)).call
          r).whole.run.1 ↔ i = index ∨ .run i ∈ ((c ⟨index + 1, cs.length⟩ r).run.2.follow
            (Next.chain endpoint (index + 1) (cs.map middleware))).run.1 := by
        intro i
        have hentry := Work.run_notMem_events (c ⟨index + 1, cs.length⟩ r) i
        have hresult : (c ⟨index + 1, cs.length⟩ r).events.run.2 =
            (c ⟨index + 1, cs.length⟩ r).run.2 := by rw [Work.events, Work.run_restrict]
        rw [Next.call_cons, Call.whole, Work.run_after, Work.run_bind, hresult]
        simp [hentry]
      have hlast : index + (cs.length + 1) = index + 1 + cs.length := by omega
      rw [hrest, List.length_cons, or_iff_right (by omega), hlast, visits]
      obtain ⟨es, course⟩ := (c ⟨index + 1, cs.length⟩ r).run
      cases course with
      | pass r' after =>
          rw [runsLastLink_pass, ← ih, Course.follow, Work.run_bind, List.mem_append,
            or_iff_left (Work.run_notMem_events _ _)]
      | decline own => exact iff_of_false (Work.run_notMem_events own _) not_runsLastLink_decline
      | abandon r' own =>
          rw [runsLastLink_abandon, Course.follow, Work.run_after, List.mem_append,
            or_iff_left (Work.run_notMem_events _ _)]
          cases cs with
          | nil => exact iff_of_true (List.mem_cons_self ..) rfl
          | cons c' cs =>
              rw [Next.call_cons]
              exact iff_of_false (by simp) (Nat.succ_ne_zero _)

end Conduct

/-! ### Dispatches -/

/-- Runs its link, leaves what that has returned to others, and answers. -/
def Middleware.keeping : Middleware := fun r _ => .run r <| .keep <| .answer (.ok {})

/-- **A call that is left to others** completes a dispatch that has been short-circuited. -/
theorem Pipeline.completed_of_keeping :
    let p : Pipeline := ⟨[.keeping, Script.middleware {}]⟩
    let d := p.dispatch ⟨"GET", { path := "/" }, [], none⟩ fun _ => pure (.ok {})
    (d.after [.poll]).stage = .shortCircuited ∧ (d.after [.poll]).poll? = none ∧
      (d.after [.poll, .pollKept 0]).stage = .completed :=
  ⟨rfl, rfl, rfl⟩

end Signpost
