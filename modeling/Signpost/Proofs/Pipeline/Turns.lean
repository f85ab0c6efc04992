import Mathlib.Data.List.Basic
import Signpost.Pipeline.Dispatch

/-!
# Pipelines — turns

A dispatch goes on whenever it is polled.  Its work waits a number of times (`Work.waits`), and the
turn after the last wait has the result.  Polling a finished dispatch does nothing to it
(`Dispatch.next`).

* `Work.poll_cases`: a turn has the result, or it has a rest that waits once less.
* `Dispatch.exists_outcome`: the turn that has the result, and the result.
* `Dispatch.log_of_waits_lt`: what all turns together have written.
-/

namespace Signpost

namespace Work

variable {ε ε' α β : Type}

/-- The number of times that the work waits. -/
def waits : Work ε α → Nat
  | .done _  => 0
  | .wait t  => t.waits + 1
  | .act _ t => t.waits

/-- **A turn** has the result, or it has a rest that waits once less. -/
theorem poll_cases (t : Work ε α) :
    (t.waits = 0 ∧ t.poll = (t.run.1, .ready t.run.2)) ∨
      ∃ es rest, t.poll = (es, .pending rest) ∧ t.waits = rest.waits + 1 ∧
        t.run = (es ++ rest.run.1, rest.run.2) := by
  induction t with
  | done a => exact .inl ⟨rfl, rfl⟩
  | wait t _ => exact .inr ⟨[], t, rfl, rfl, rfl⟩
  | act e t ih =>
      rcases ih with ⟨hwaits, hpoll⟩ | ⟨es, rest, hpoll, hwaits, hrun⟩
      · exact .inl ⟨hwaits, by rw [poll, hpoll]; rfl⟩
      · exact .inr ⟨e :: es, rest, by rw [poll, hpoll], hwaits, by rw [run, hrun]; rfl⟩

end Work

theorem Effect.notes_append (es es' : List Effect) : notes (es ++ es') = notes es ++ notes es' :=
  List.map_append

theorem Event.notes_append (es es' : List Event) : notes (es ++ es') = notes es ++ notes es' := by
  simp only [notes, List.filterMap_append, Effect.notes_append]

namespace Dispatch

variable {d : Dispatch} {s : Stage} {t : Work Event Reply} {kept : List (Kept Event)} {k : Nat}

/-- The dispatch after a turn; one that has finished stays as it is. -/
def next (d : Dispatch) : Dispatch := d.move .poll

/-- The dispatch after some turns. -/
def polled : Dispatch → (turns : Nat) → Dispatch
  | d, 0         => d
  | d, turns + 1 => d.next.polled turns

/-- The turn that comes after some others.  There is none when the dispatch has finished before. -/
def turn? (d : Dispatch) (before : Nat) : Option Turn := (d.polled before).poll?

/-- What the first turns write to the log. -/
def log : Dispatch → (turns : Nat) → List String
  | _, 0         => []
  | d, turns + 1 => d.poll?.elim [] Turn.notes ++ d.next.log turns

theorem next_of_poll? {turn : Turn} (h : d.poll? = some turn) : d.next = turn.dispatch := by
  simp only [next, move, h]
  rfl

theorem log_finished (h : d.rest? = none) (k : Nat) : d.log k = [] := by
  have hpoll : d.poll? = none := (poll?_eq_none_iff d).2 h
  have hnext : d.next = d := by
    simp only [next, move, hpoll]
    rfl
  induction k with
  | zero => rfl
  | succ k ih =>
      rw [log, hnext, ih, hpoll]
      rfl

/-- The stage in which a turn leaves a dispatch under way. -/
def stageAfter (s : Stage) (es : List Event) : Stage := es.foldl Stage.after s.resumed

/-- The turn that has the result. -/
theorem poll?_of_ready {es : List Event} {reply : Reply} (h : t.poll = (es, .ready reply)) :
    (⟨s, some t, kept⟩ : Dispatch).poll? =
      some ⟨⟨(stageAfter s es).finished, none, kept ++ es.filterMap Event.kept?⟩, Event.notes es,
        some ⟨reply, (stageAfter s es).finished⟩⟩ := by
  simp only [poll?, Option.map_some, h]
  rfl

/-- A turn that ends in a wait. -/
theorem poll?_of_pending {es : List Event} {rest : Work Event Reply}
    (h : t.poll = (es, .pending rest)) :
    (⟨s, some t, kept⟩ : Dispatch).poll? =
      some ⟨⟨stageAfter s es, some rest, kept ++ es.filterMap Event.kept?⟩, Event.notes es,
        none⟩ := by
  simp only [poll?, Option.map_some, h]
  rfl

/-- **The turn after the last wait** has the result. -/
theorem exists_outcome (s : Stage) (t : Work Event Reply) (kept : List (Kept Event)) :
    ∃ turn, (⟨s, some t, kept⟩ : Dispatch).turn? t.waits = some turn ∧
      turn.outcome? = some ⟨t.run.2, turn.dispatch.stage⟩ := by
  generalize hk : t.waits = k
  induction k generalizing s t kept with
  | zero =>
      rcases t.poll_cases with ⟨-, hpoll⟩ | ⟨es, rest, -, hwaits, -⟩
      · exact ⟨_, poll?_of_ready hpoll, rfl⟩
      · exact absurd (hwaits.symm.trans hk) (Nat.succ_ne_zero _)
  | succ k ih =>
      rcases t.poll_cases with ⟨hwaits, -⟩ | ⟨es, rest, hpoll, hwaits, hrun⟩
      · exact absurd (hwaits.symm.trans hk) (Nat.succ_ne_zero _).symm
      · obtain ⟨turn, hturn, houtcome⟩ := ih (stageAfter s es) rest
          (kept ++ es.filterMap Event.kept?) (Nat.succ.inj (hwaits.symm.trans hk))
        refine ⟨turn, ?_, by rw [houtcome, hrun]⟩
        rw [turn?, polled, next_of_poll? (poll?_of_pending hpoll)]
        exact hturn

/-- After the turn that has the result, all lines have been written, and no others come. -/
theorem log_of_waits_lt (h : t.waits < k) :
    (⟨s, some t, kept⟩ : Dispatch).log k = Event.notes t.run.1 := by
  induction k generalizing s t kept with
  | zero => exact absurd h (Nat.not_lt_zero _)
  | succ k ih =>
      rcases t.poll_cases with ⟨-, hpoll⟩ | ⟨es, rest, hpoll, hwaits, hrun⟩
      · rw [log, next_of_poll? (poll?_of_ready hpoll), poll?_of_ready hpoll, log_finished rfl,
          List.append_nil]
        rfl
      · have hlt : rest.waits < k := by
          rw [hwaits] at h
          exact Nat.lt_of_succ_lt_succ h
        rw [log, next_of_poll? (poll?_of_pending hpoll), poll?_of_pending hpoll, ih hlt, hrun,
          Event.notes_append]
        rfl

end Dispatch

end Signpost
