import Signpost.Route
import Signpost.Text.Quoted

/-!
# Registries

Handlers and middlewares by name.  A route that names its handler or its middlewares gets them from
here when a request comes.

A router works with anything that resolves names.  This is the resolver that is built from two
dictionaries, and the only one here: routers have a `Registry`, and what is said of a request whose
names are resolved is said for this resolver.
-/

namespace Signpost

structure Registry where
  handlers    : Dict Handler := .empty
  middlewares : Dict Middleware := .empty

namespace Registry

/-- Puts a handler under a name, in the place of one that is there. -/
def withHandler (g : Registry) (name : String) (h : Handler) : Registry :=
  { g with handlers := g.handlers.insert name h }

/-- Puts a middleware under a name, in the place of one that is there. -/
def withMiddleware (g : Registry) (name : String) (m : Middleware) : Registry :=
  { g with middlewares := g.middlewares.insert name m }

/-- A description of the registry by its names. -/
def debug (g : Registry) : String :=
  "Registry \x7b handlers: " ++ Quoted.quoteList g.handlers.keys ++ ", middlewares: " ++
    Quoted.quoteList g.middlewares.keys ++ " \x7d"

/-- The handler with a name. -/
def namedHandler (g : Registry) (name : String) : Except Error Handler :=
  match g.handlers.get? name with
  | some h => .ok h
  | none   => .error (.unresolvedHandler name)

/-- The handler for a request with the given method, where `verbs` has the actions of resources by
method. -/
def resolveHandler (g : Registry) (verbs : Dict String) (method : String) :
    HandlerRef → Except Error Handler
  | .callable h      => .ok h
  | .named name      => g.namedHandler name
  | .resource target =>
    match verbs.get? method with
    | some action => g.namedHandler s!"{target}@{action}"
    | none        => .error (.unresolvedHandler s!"{target} (no action for {method})")

def resolveMiddleware (g : Registry) : MiddlewareRef → Except Error Middleware
  | .direct m   => .ok m
  | .named name =>
    match g.middlewares.get? name with
    | some m => .ok m
    | none   => .error (.unresolvedMiddleware name)

/-- The middlewares of a route, in order. -/
def resolveMiddlewares (g : Registry) (ms : List MiddlewareRef) : Except Error (List Middleware) :=
  ms.mapM g.resolveMiddleware

end Registry

namespace HandlerRef

/-- A description of the handler. -/
def debug : HandlerRef → String
  | .callable _      => "Callable(..)"
  | .named name      => "Named(" ++ Quoted.quote name ++ ")"
  | .resource target => "Resource(" ++ Quoted.quote target ++ ")"

end HandlerRef

namespace MiddlewareRef

/-- A description of the middleware. -/
def debug : MiddlewareRef → String
  | .direct _   => "Instance(..)"
  | .named name => "Named(" ++ Quoted.quote name ++ ")"

end MiddlewareRef

end Signpost
