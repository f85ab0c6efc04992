/-!
# Pipelines — Jobs

Work that is done in turns.  It may wait, and then goes on when it is polled the next time; on the
way to its result it has effects.  Work that is never polled has none.

The effects of a job (`Job`) are lines for the log.

* `Work.run_bind` — one piece of work after another has the effects of both, in order.
* `Work.run_restrict` — with some of the effects left out, the others and the result stay.
-/

namespace Signpost

/-- Work with a result of type `α`, and with effects of type `ε` on the way to it. -/
inductive Work (ε α : Type) where
  | done (result : α)
  | wait (rest : Work ε α)
  | act (effect : ε) (rest : Work ε α)
  deriving Inhabited

namespace Work

variable {ε ε' α β γ : Type}

/-- Work and then some more, which depends on its result. -/
def bind : Work ε α → (α → Work ε β) → Work ε β
  | .done a, f     => f a
  | .wait t, f     => .wait (t.bind f)
  | .act e t, f    => .act e (t.bind f)

instance : Monad (Work ε) where
  pure := .done
  bind := .bind

theorem bind_assoc (t : Work ε α) (f : α → Work ε β) (g : β → Work ε γ) :
    (t.bind f).bind g = t.bind fun a => (f a).bind g := by
  induction t with
  | done a => rfl
  | wait t ih => simp only [bind, ih]
  | act e t ih => simp only [bind, ih]

theorem bind_done (t : Work ε α) : t.bind .done = t := by
  induction t with
  | done a => rfl
  | wait t ih => simp only [bind, ih]
  | act e t ih => simp only [bind, ih]

instance : LawfulMonad (Work ε) :=
  LawfulMonad.mk' (Work ε) (fun t => bind_done t) (fun _ _ => rfl) (fun t f g => bind_assoc t f g)

/-- Some effects, and then the work. -/
def after (es : List ε) (t : Work ε α) : Work ε α := es.foldr .act t

/-- The work with those of its effects that `f` knows, as `f` has them. -/
def restrict (f : ε → Option ε') : Work ε α → Work ε' α
  | .done a  => .done a
  | .wait t  => .wait (t.restrict f)
  | .act e t =>
    match f e with
    | some e' => .act e' (t.restrict f)
    | none    => t.restrict f

/-- Waits for `turns` turns. -/
def sleep : (turns : Nat) → Work ε Unit
  | 0         => .done ()
  | turns + 1 => .wait (sleep turns)

/-- What a turn leads to. -/
inductive Progress (ε α : Type) where
  | ready (result : α)
  | pending (rest : Work ε α)

/-- Goes on up to the next wait, or to the result. -/
def poll : Work ε α → List ε × Progress ε α
  | .done a  => ([], .ready a)
  | .wait t  => ([], .pending t)
  | .act e t =>
    let rest := t.poll
    (e :: rest.1, rest.2)

/-- Goes on to the result, through all waits. -/
def run : Work ε α → List ε × α
  | .done a  => ([], a)
  | .wait t  => t.run
  | .act e t =>
    let rest := t.run
    (e :: rest.1, rest.2)

theorem run_bind (t : Work ε α) (f : α → Work ε β) :
    (t.bind f).run = (t.run.1 ++ (f t.run.2).run.1, (f t.run.2).run.2) := by
  induction t with
  | done a => rfl
  | wait t ih => simpa only [bind, run] using ih
  | act e t ih => simp only [bind, run, ih, List.cons_append]

theorem run_after (es : List ε) (t : Work ε α) : (after es t).run = (es ++ t.run.1, t.run.2) := by
  induction es with
  | nil => rfl
  | cons e es ih =>
    rw [after, List.foldr_cons, run]
    exact congrArg (fun x => (e :: x.1, x.2)) ih

theorem bind_after (es : List ε) (t : Work ε α) (f : α → Work ε β) :
    (after es t).bind f = after es (t.bind f) := by
  induction es with
  | nil => rfl
  | cons e es ih => exact congrArg (Work.act e) ih

theorem restrict_after (f : ε → Option ε') (es : List ε) (t : Work ε α) :
    (after es t).restrict f = after (es.filterMap f) (t.restrict f) := by
  induction es with
  | nil => rfl
  | cons e es ih =>
    rw [after, List.foldr_cons, restrict]
    cases h : f e with
    | none => rw [List.filterMap_cons_none h]; exact ih
    | some e' => rw [List.filterMap_cons_some h]; exact congrArg (Work.act e') ih

theorem run_restrict (f : ε → Option ε') (t : Work ε α) :
    (t.restrict f).run = (t.run.1.filterMap f, t.run.2) := by
  induction t with
  | done a => rfl
  | wait t ih => exact ih
  | act e t ih =>
    rw [restrict, run]
    cases h : f e with
    | none => simp only [ih, List.filterMap_cons_none h]
    | some e' => simp only [run, ih, List.filterMap_cons_some h]

theorem restrict_bind (f : ε → Option ε') (t : Work ε α) (g : α → Work ε β) :
    (t.bind g).restrict f = (t.restrict f).bind fun a => (g a).restrict f := by
  induction t with
  | done a => rfl
  | wait t ih => simp only [bind, restrict, ih]
  | act e t ih =>
    simp only [bind, restrict, ih]
    cases f e <;> rfl

end Work

/-- What a job does besides computing a result. -/
inductive Effect where
  /-- A line for the log. -/
  | note (line : String)
  deriving DecidableEq, Repr

namespace Effect

/-- The lines for the log among effects. -/
def notes (effects : List Effect) : List String := effects.map fun | .note line => line

end Effect

/-- What a handler does. -/
abbrev Job := Work Effect

namespace Job

/-- Writes a line to the log. -/
def note (line : String) : Job Unit := .act (.note line) (.done ())

end Job

end Signpost
