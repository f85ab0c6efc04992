import Signpost.Matcher.Lookup
import Signpost.Pipeline.Dispatch
import Signpost.Router.Basic

/-!
# Routers — Answers

How a router with a compiled matcher answers a request.  First it decides what to do, by what it
finds for the method and the path (`Router.decide`); then it does so (`Router.carryOut`).
-/

namespace Signpost

/-- What a router does with a request. -/
inductive Decision where
  | dispatch (m : Matcher.Match)
  | redirect (location : String) (status : Nat)
  /-- Replies to an `OPTIONS` request with the methods that would do. -/
  | options (allow : List String)
  | methodNotAllowed (allow : List String)
  | notFound
  deriving DecidableEq, Repr

namespace Router

/-- A path with a slash added to its end, or taken from it. -/
def toggleSlash (path : String) : String :=
  match path.toList.getLast? with
  | some '/' => String.ofList path.toList.dropLast
  | _        => path ++ "/"

/-- The path to which a request is redirected: that with its slash toggled, if it has a route. -/
def redirect? (m : Matcher) (c : Context) : Except Error (Option String) :=
  if c.path = "/" ∨ c.method = "CONNECT" then .ok none
  else do
    let path := toggleSlash c.path
    match ← m.lookup (c.withPath path) with
    | .found _ => return some path
    | _        => return none

/-- The path to which a request without a route is redirected. -/
def redirectOf? (r : Router) (m : Matcher) (c : Context) (allowed : List String) :
    Except Error (Option String) :=
  if allowed.isEmpty && r.config.redirectTrailingSlash then redirect? m c else .ok none

/-- What to do with a request for which no route is found and which is not redirected, where
`allowed` has the methods that would do. -/
def decline (r : Router) (method : String) (path : String) (allowed : List String) : Decision :=
  if method = "OPTIONS" ∧ r.config.handleOptions then
    let allow := addOptions (if path = "*" then r.declaredMethods else allowed)
    if allow.isEmpty then .notFound else .options allow
  else if r.config.handleMethodNotAllowed ∧ allowed ≠ [] then
    .methodNotAllowed (if r.config.handleOptions then addOptions allowed else allowed)
  else .notFound

/-- What to do with a request. -/
def decide (r : Router) (m : Matcher) (req : Request) : Except Error Decision := do
  let c := Context.ofRequest req
  let allowed ← match ← m.lookup c with
    | .found found               => return .dispatch found
    | .methodNotAllowed methods  => pure methods
    | .notFound                  => pure []
  match ← r.redirectOf? m c allowed with
  | some path =>
    return .redirect (path ++ req.uri.query.elim "" ("?" ++ ·))
      (if req.method = "GET" then 301 else 308)
  | none      => return r.decline req.method c.path allowed

/-- An answer without a body, whose header must have a value that can be sent. -/
def headerReply (status : Nat) (name value : String) : Reply :=
  if isHeaderValue value then .ok { status, headers := [(name, value)] }
  else .error (.handler "failed to parse header value")

/-- The job of a handler, or else of a reply. -/
def handleOr (h? : Option Handler) (req : Request) (reply : Reply) : Job Reply :=
  match h? with
  | some h => h req
  | none   => pure reply

/-- Sends a request to its route, once everything that it names has been found. -/
def dispatch (r : Router) (m : Matcher.Match) (req : Request) : Except Error (Job Reply) :=
  match r.collection.route? m.route with
  | none       => .error (.badMatcher (.unknownRoute m.route))
  | some route => do
    let handler ← r.registry.resolveHandler r.config.resourceVerbs req.method route.handler
    let middlewares ← r.registry.resolveMiddlewares route.middlewares
    return (Pipeline.mk middlewares).process { req with params? := some m.params } handler

/-- Does what has been decided. -/
def carryOut (r : Router) (req : Request) : Decision → Except Error (Job Reply)
  | .dispatch m               => r.dispatch m req
  | .redirect location status => .ok (pure (headerReply status "location" location))
  | .options allow            =>
    .ok (handleOr r.globalOptions req (headerReply 200 "allow" (", ".intercalate allow)))
  | .methodNotAllowed allow   =>
    .ok (handleOr r.methodNotAllowed req (headerReply 405 "allow" (", ".intercalate allow)))
  | .notFound                 => .ok (handleOr r.notFound req (.ok { status := 404 }))

/-- The job that answers a request. -/
def answer (r : Router) (m : Matcher) (req : Request) : Except Error (Job Reply) := do
  r.carryOut req (← r.decide m req)

end Router

end Signpost
