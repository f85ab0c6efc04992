import Signpost.Route

/-!
# Groups

What the routes of a group have in common.  What a route says itself wins over what its group says.
-/

namespace Signpost

structure Group where
  /-- What the paths of the routes begin with. -/
  base        : String := ""
  domain      : Option String := none
  middlewares : List MiddlewareRef := []
  patterns    : Dict String := .empty
  defaults    : Dict String := .empty
  /-- What the names of the routes begin with. -/
  name        : String := ""
  schemes     : List String := []
  deriving Inhabited

namespace Group

/-- A group with a base path, which may come with a host and a scheme. -/
def ofText (base : String) : Group :=
  let target := Target.ofText base
  { base := if target.host.isSome && target.path = "/" then "" else target.path
    domain := target.host
    schemes := target.scheme.toList }

def withDomain (g : Group) (host : String) : Group := { g with domain := some host }

def withMiddleware (g : Group) (m : MiddlewareRef) : Group :=
  { g with middlewares := g.middlewares ++ [m] }

def withPattern (g : Group) (name constraint : String) : Group :=
  { g with patterns := g.patterns.insert name constraint }

def withDefault (g : Group) (name value : String) : Group :=
  { g with defaults := g.defaults.insert name value }

def withName (g : Group) (name : String) : Group := { g with name }

def withScheme (g : Group) (scheme : String) : Group :=
  { g with schemes := g.schemes ++ [scheme.toLower] }

/-- A text without the slashes at its end. -/
def trimEnd (text : List Char) : List Char := (text.reverse.dropWhile (· = '/')).reverse

/-- Joins paths with a single slash, unless the second begins with an optional segment. -/
def joinPath (base path : List Char) : List Char :=
  let base := trimEnd base
  if base.isEmpty then path
  else if path.head? = some '[' then base ++ path
  else
    let rest := path.dropWhile (· = '/')
    if rest.isEmpty then base else base ++ '/' :: rest

/-- The path of a route below the base of the group. -/
def join (base path : String) : String := String.ofList (joinPath base.toList path.toList)

/-- The route with what the group says in the place of what it does not say itself. -/
def apply (g : Group) (r : Route) : Route :=
  { r with
    path := join g.base r.path
    domain := r.domain.or g.domain
    middlewares := g.middlewares ++ r.middlewares
    patterns := r.patterns.orElse g.patterns
    defaults := r.defaults.orElse g.defaults
    name := r.name.map (g.name ++ ·)
    schemes := if r.schemes.isEmpty then g.schemes else r.schemes }

end Group

end Signpost
