import Signpost.Dict
import Signpost.Distinct
import Signpost.Pattern.Target
import Signpost.Pipeline.Link

/-!
# Routes

A route says which requests it is for, and where they go: to a handler that it holds, or to one
that is looked up by name when a request comes.
-/

namespace Signpost

/-- The handler of a route. -/
inductive HandlerRef where
  | callable (handler : Handler)
  | named (name : String)
  /-- A resource: the name of its handler depends on the method. -/
  | resource (target : String)

/-- A middleware of a route. -/
inductive MiddlewareRef where
  | direct (middleware : Middleware)
  | named (name : String)

/-- The methods that a route for any method has. -/
def anyMethods : List String := ["GET", "HEAD", "POST", "PUT", "PATCH", "DELETE", "OPTIONS"]

structure Route where
  name        : Option String := none
  path        : String
  /-- In upper case. -/
  methods     : List String
  handler     : HandlerRef
  /-- The outermost first. -/
  middlewares : List MiddlewareRef := []
  /-- Constraints that replace those of the pattern. -/
  patterns    : Dict String := .empty
  /-- Values of variables that take no part in a match. -/
  defaults    : Dict String := .empty
  /-- The pattern of the host. -/
  domain      : Option String := none
  /-- In lower case; none stands for any scheme. -/
  schemes     : List String := []

namespace Route

/-- A route for a path, which may come with a host and a scheme. -/
def of (methods : List String) (path : String) (handler : HandlerRef) : Route :=
  let target := Target.ofText path
  { path := target.path
    methods := distinct (methods.map String.toUpper)
    handler
    domain := target.host
    schemes := target.scheme.toList }

def withName (r : Route) (name : String) : Route := { r with name := some name }

/-- Adds a middleware, which runs after those that are there. -/
def withMiddleware (r : Route) (m : MiddlewareRef) : Route :=
  { r with middlewares := r.middlewares ++ [m] }

/-- Constrains a variable. -/
def withPattern (r : Route) (name constraint : String) : Route :=
  { r with patterns := r.patterns.insert name constraint }

def withDefault (r : Route) (name value : String) : Route :=
  { r with defaults := r.defaults.insert name value }

def withDomain (r : Route) (host : String) : Route := { r with domain := some host }

/-- Adds a scheme, unless it is there. -/
def withScheme (r : Route) (scheme : String) : Route :=
  { r with schemes := distinct (r.schemes ++ [scheme.toLower]) }

/-- A short description, for errors. -/
def describe (r : Route) : String :=
  "|".intercalate r.methods ++ " " ++ r.domain.elim "" ("//" ++ ·) ++ r.path ++
    r.name.elim "" fun name => " (" ++ name ++ ")"

end Route

end Signpost
