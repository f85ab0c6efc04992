import Signpost.Http.Message
import Signpost.Pipeline.Job

/-!
# Pipelines — Links

A request goes down a chain of middlewares to a handler at its end.  Each middleware gets the
request together with the rest of the chain, its link (`Next`).  It may run the link, once, with any
request, and has then what that has returned: work that goes on when somebody polls it.  The
middleware may wait for the answer, poll for it, drop it, or leave it to somebody else, as it may
the link itself; and it may run the link before it is ever polled.

What a middleware does is a plan (`Plan`).  A plan can do no more to the chain than that, so that
nothing but the chain itself tells that its end has been reached.
-/

namespace Signpost

/-- Answers a request. -/
abbrev Handler := Request → Job Reply

/-- What comes of a link that is run: what happens at once, even if nobody ever polls the rest, and
the rest. -/
structure Call (ε : Type) where
  atOnce : List ε := []
  rest   : Work ε Reply

/-- What a middleware sees of its link: the index of the first middleware behind it, and how many
there are. -/
structure Link where
  index     : Nat
  remaining : Nat
  deriving DecidableEq, Repr

/-- The rest of a chain, and what it makes of a request. -/
structure Next (ε : Type) extends Link where
  run : Request → Call ε

/-- What a middleware can leave to others: its link, or what is left of a call. -/
inductive Kept (ε : Type) where
  | link (next : Next ε)
  | call (rest : Work ε Reply)

/-- What happens to a request on its way down a chain. -/
inductive Event where
  | effect (e : Effect)
  /-- The link with this index has been run. -/
  | run (index : Nat)
  /-- The end of the chain has been reached. -/
  | reachEnd
  /-- Something has been left to others. -/
  | keep (kept : Kept Event)

namespace Event

def effect? : Event → Option Effect
  | .effect e => some e
  | _         => none

def kept? : Event → Option (Kept Event)
  | .keep kept => some kept
  | _          => none

end Event

namespace Work

variable {α : Type}

/-- What somebody sees of the work who does not see the chain. -/
def job (t : Work Event α) : Job α := t.restrict Event.effect?

/-- A job as part of what happens to a request. -/
def events (t : Job α) : Work Event α := t.restrict (some ∘ .effect)

theorem job_events (t : Job α) : t.events.job = t := by
  induction t with
  | done a => rfl
  | wait t ih => exact congrArg Work.wait ih
  | act e t ih => exact congrArg (Work.act e) ih

end Work

namespace Call

/-- The call, with some events before the others. -/
def after (es : List Event) (c : Call Event) : Call Event := ⟨es ++ c.atOnce, c.rest⟩

/-- All that the call does, in one go. -/
def whole (c : Call Event) : Work Event Reply := .after c.atOnce c.rest

theorem whole_after (es : List Event) (c : Call Event) :
    (c.after es).whole = .after es c.whole := List.foldr_append

end Call

namespace Next

/-- Runs the link. -/
def call (next : Next Event) (r : Request) : Call Event := (next.run r).after [.run next.index]

end Next

namespace Link

/-- A description of the link. -/
def debug (l : Link) : String :=
  "Next \x7b index: " ++ toString l.index ++ ", remaining: " ++ toString l.remaining ++ " \x7d"

end Link

/-- What a middleware has in hand of the rest of the chain. -/
inductive Hold where
  /-- Its link, which it has not run. -/
  | link
  /-- What running the link has returned. -/
  | call
  | nothing

namespace Hold

abbrev Held : Hold → Type
  | .link    => Next Event
  | .call    => Work Event Reply
  | .nothing => Unit

/-- Leaves what is in hand to others. -/
def leave : (h : Hold) → h.Held → List Event
  | .link, next    => [.keep (.link next)]
  | .call, rest    => [.keep (.call rest)]
  | .nothing, _    => []

end Hold

/-- What a middleware does, by what it has in hand. -/
inductive Plan : Hold → Type where
  /-- Answers, and drops what is in hand. -/
  | answer {h : Hold} (reply : Reply) : Plan h
  | wait {h : Hold} (rest : Plan h) : Plan h
  | act {h : Hold} (effect : Effect) (rest : Plan h) : Plan h
  /-- Leaves the rest until it is polled. -/
  | defer {h : Hold} (rest : Plan h) : Plan h
  /-- Runs the link. -/
  | run (r : Request) (rest : Plan .call) : Plan .link
  /-- Waits for the answer to the call. -/
  | await (rest : Reply → Plan .nothing) : Plan .call
  /-- Polls the call, once. -/
  | poll (ready : Reply → Plan .nothing) (pending : Plan .call) : Plan .call
  | drop {h : Hold} (rest : Plan .nothing) : Plan h
  /-- Leaves what is in hand to others. -/
  | keep {h : Hold} (rest : Plan .nothing) : Plan h

/-- Answers a request, or passes it on. -/
abbrev Middleware := Request → Link → Plan .link

namespace Plan

/-- What a middleware does with what it has in hand. -/
def start : {h : Hold} → Plan h → h.Held → Call Event
  | _, .answer reply, _           => ⟨[], .done reply⟩
  | _, .wait rest, held           => ⟨[], .wait (rest.start held).whole⟩
  | _, .act e rest, held          => (rest.start held).after [.effect e]
  | _, .defer rest, held          => ⟨[], (rest.start held).whole⟩
  | _, .run r rest, held          =>
    let next : Next Event := held
    (rest.start (next.call r).rest).after (next.call r).atOnce
  | _, .await rest, held          => ⟨[], held.bind fun reply => ((rest reply).start ()).whole⟩
  | _, .poll ready pending, held  =>
    ⟨[], .after held.poll.1 <| match held.poll.2 with
      | .ready reply  => ((ready reply).start ()).whole
      | .pending rest => (pending.start rest).whole⟩
  | _, .drop rest, _              => rest.start ()
  | h, .keep rest, held           => (rest.start ()).after (h.leave held)

/-- Does a job first. -/
def doing {α : Type} {h : Hold} : Job α → (α → Plan h) → Plan h
  | .done a, p  => p a
  | .wait t, p  => .wait (doing t p)
  | .act e t, p => .act e (doing t p)

theorem whole_doing {α : Type} {h : Hold} (t : Job α) (p : α → Plan h) (held : h.Held) :
    ((doing t p).start held).whole = t.events.bind fun a => ((p a).start held).whole := by
  induction t with
  | done a => rfl
  | wait t ih => exact congrArg Work.wait ih
  | act e t ih =>
    rw [doing, start, Call.whole_after, ih]
    rfl

end Plan

namespace Next

/-- The chain of the middlewares, whose indices begin at `index`, with a handler at its end. -/
def chain (endpoint : Handler) : (index : Nat) → List Middleware → Next Event
  | index, []      => ⟨⟨index, 0⟩, fun r => ⟨[.reachEnd], (endpoint r).events⟩⟩
  | index, m :: ms =>
    let next := chain endpoint (index + 1) ms
    ⟨⟨index, ms.length + 1⟩, fun r => (m r next.toLink).start next⟩

end Next

end Signpost
