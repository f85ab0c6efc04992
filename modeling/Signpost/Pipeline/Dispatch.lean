import Signpost.Pipeline.Link

/-!
# Pipelines — Dispatch

A pipeline is a list of middlewares; a dispatch is one request on its way through them.  It
goes on when it is polled, and its stage tells how far it has come.  What the middlewares leave to
others stays with it, for whoever runs or polls that can change its stage.

* `Dispatch.poll?_eq_none_iff` — only a finished dispatch cannot be polled.
-/

namespace Signpost

/-- How far a dispatch has come. -/
inductive Stage where
  | pending
  | running
  /-- It has finished without reaching the end of the chain. -/
  | shortCircuited
  /-- It has reached the end of the chain. -/
  | completed
  deriving DecidableEq, Repr

namespace Stage

/-- The stage after an event. -/
def after (s : Stage) : Event → Stage
  | .reachEnd => .completed
  | _         => s

/-- The stage in which a turn begins. -/
def resumed : Stage → Stage
  | .pending => .running
  | s        => s

/-- The stage in which a dispatch ends that has its result. -/
def finished : Stage → Stage
  | .running => .shortCircuited
  | s        => s

end Stage

/-- The lines for the log among events. -/
def Event.notes (events : List Event) : List String := Effect.notes (events.filterMap effect?)

/-- What a dispatch leads to. -/
structure Outcome where
  reply : Reply
  stage : Stage

/-- A dispatch: its stage; what is left of it, unless it has finished; and what its middlewares have
left to others. -/
structure Dispatch where
  stage : Stage := .pending
  rest? : Option (Work Event Reply)
  kept  : List (Kept Event) := []

/-- What a turn of a dispatch does. -/
structure Turn where
  dispatch : Dispatch
  notes    : List String
  outcome? : Option Outcome

/-- What somebody does to a dispatch. -/
inductive Move where
  /-- Polls the dispatch. -/
  | poll
  /-- Polls a call that has been left to others. -/
  | pollKept (i : Nat)
  /-- Runs a link that has been left to others. -/
  | runKept (i : Nat) (r : Request)

namespace Dispatch

/-- The dispatch after some events. -/
def heed (d : Dispatch) (events : List Event) : Dispatch :=
  { d with
    stage := events.foldl Stage.after d.stage
    kept := d.kept ++ events.filterMap Event.kept? }

/-- Goes on with a dispatch, unless it has finished. -/
def poll? (d : Dispatch) : Option Turn :=
  d.rest?.map fun rest =>
    let (events, progress) := rest.poll
    let d := { d with stage := d.stage.resumed }.heed events
    match progress with
    | .pending rest => ⟨{ d with rest? := some rest }, Event.notes events, none⟩
    | .ready reply  =>
      let stage := d.stage.finished
      ⟨{ d with stage, rest? := none }, Event.notes events, some ⟨reply, stage⟩⟩

/-- What a move brings about. -/
def events (d : Dispatch) : Move → List Event
  | .poll        => d.rest?.elim [] fun rest => rest.poll.1
  | .pollKept i  =>
    match d.kept[i]? with
    | some (.call rest) => rest.poll.1
    | _                 => []
  | .runKept i r =>
    match d.kept[i]? with
    | some (.link next) => (next.call r).atOnce
    | _                 => []

/-- What is there for others after a move, but for what the move adds to it. -/
def left (d : Dispatch) : Move → List (Kept Event)
  | .poll        => d.kept
  | .pollKept i  =>
    match d.kept[i]? with
    | some (.call rest) =>
      match rest.poll.2 with
      | .pending rest => d.kept.set i (.call rest)
      | .ready _      => d.kept.eraseIdx i
    | _                 => d.kept
  | .runKept i r =>
    match d.kept[i]? with
    | some (.link next) => d.kept.set i (.call (next.call r).rest)
    | _                 => d.kept

/-- The dispatch after a move.  Polling a finished dispatch does nothing to it, nor does a move for
which nothing has been left. -/
def move (d : Dispatch) (m : Move) : Dispatch :=
  match m with
  | .poll => (d.poll?.map Turn.dispatch).getD d
  | _     => { d with kept := d.left m }.heed (d.events m)

end Dispatch

/-- A list of middlewares, in the order in which they run. -/
structure Pipeline where
  middlewares : List Middleware := []

namespace Pipeline

/-- The pipeline with a middleware after the others. -/
def pipe (p : Pipeline) (m : Middleware) : Pipeline := ⟨p.middlewares ++ [m]⟩

def size (p : Pipeline) : Nat := p.middlewares.length

def isEmpty (p : Pipeline) : Bool := p.middlewares.isEmpty

def debug (p : Pipeline) : String := "Pipeline \x7b middlewares: " ++ toString p.size ++ " \x7d"

/-- The way of a request through the pipeline to a handler. -/
def way (p : Pipeline) (r : Request) (endpoint : Handler) : Work Event Reply :=
  ((Next.chain endpoint 0 p.middlewares).call r).whole

/-- The job of a request that goes through the pipeline to a handler. -/
def process (p : Pipeline) (r : Request) (endpoint : Handler) : Job Reply :=
  (p.way r endpoint).job

/-- A dispatch of a request. -/
def dispatch (p : Pipeline) (r : Request) (endpoint : Handler) : Dispatch :=
  { rest? := some (p.way r endpoint) }

end Pipeline

namespace Dispatch

theorem poll?_eq_none_iff (d : Dispatch) : d.poll? = none ↔ d.rest? = none := by
  simp [poll?]

end Dispatch

end Signpost
