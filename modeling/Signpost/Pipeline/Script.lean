import Signpost.Pipeline.Link

/-!
# Pipelines — Scripts

Handlers and middlewares that are given as data.  They note in the log when they are entered and
left, may wait for some turns, and then do one of a few things.
-/

namespace Signpost

/-- What a script does.  As a handler it fails, echoes the request, or else replies. -/
inductive Deed where
  /-- Passes the request on. -/
  | pass
  /-- Replies at once. -/
  | short
  /-- Fails at once. -/
  | fail
  /-- Describes the request. -/
  | echo
  /-- Adds a header to the request. -/
  | tag
  /-- Adds a header to the response. -/
  | wrap
  /-- Replies in place of what follows. -/
  | replace
  /-- Makes a response of an error. -/
  | recover
  /-- Fails after what follows. -/
  | failAfter
  /-- Gives the request to what follows and drops it there. -/
  | abandon
  deriving DecidableEq, Repr

structure Script where
  id     : String := "?"
  deed   : Deed := .pass
  text   : String := ""
  status : Nat := 200
  sleep  : Nat := 0
  /-- The error with which the script fails. -/
  error  : Error := .handler ""
  deriving Repr

namespace Script

/-- The response of a script that replies. -/
def reply (s : Script) : Reply := .ok { status := s.status, body := s.text }

/-- The parameters of a request as text. -/
def describeParams : Option Params → String
  | none    => "none"
  | some ps => "&".intercalate (ps.toList.map fun p => p.1 ++ "=" ++ p.2)

/-- A description of a request. -/
def describe (s : Script) (r : Request) : String :=
  let params := describeParams r.params?
  let tags := ",".intercalate (r.headers.values "x-tag")
  s!"{s.id} {r.method} {params} [{tags}]"

/-- The script as a handler. -/
def handler (s : Script) : Handler := fun r => do
  Job.note s!"handler {s.id}"
  Work.sleep s.sleep
  match s.deed with
  | .fail => return .error s.error
  | .echo => return .ok { body := s.describe r }
  | _     => return s.reply

/-- A response that tells of an error. -/
def recovered (e : Error) : Response :=
  { status := 500, body := "caught " ++ e.message?.getD "" }

/-- Notes that the middleware is left, with its answer. -/
def leave (s : Script) (reply : Reply) : Job Reply := do
  Job.note s!"exit {s.id}"
  return reply

/-- Answers, whatever is in hand. -/
def answer {h : Hold} (s : Script) (reply : Reply) : Plan h := .doing (s.leave reply) .answer

/-- What the script does as a middleware, once it has waited. -/
def act (s : Script) (r : Request) : Plan .link :=
  match s.deed with
  | .pass | .echo => .run r (.await s.answer)
  | .short        => s.answer s.reply
  | .fail         => s.answer (.error s.error)
  | .tag          => .run { r with headers := r.headers.append "x-tag" s.id } (.await s.answer)
  | .wrap         => .run r <| .await fun reply => s.answer <| reply.map fun response =>
      { response with headers := response.headers.append "x-wrap" s.id }
  | .replace      => .run r <| .await fun _ => s.answer s.reply
  | .recover      => .run r <| .await fun
      | .ok response => s.answer (.ok response)
      | .error e     => s.answer (.ok (recovered e))
  | .failAfter    => .run r <| .await fun _ => s.answer (.error s.error)
  | .abandon      => .run r <| .drop <| s.answer s.reply

/-- Notes that the middleware is entered, and waits. -/
def enter (s : Script) (link : Link) : Job Unit := do
  let link := link.debug
  Job.note s!"enter {s.id} {link}"
  Work.sleep s.sleep

/-- The script as a middleware, which does nothing before it is polled. -/
def middleware (s : Script) : Middleware := fun r link =>
  .defer <| .doing (s.enter link) fun _ => s.act r

end Script

end Signpost
