import Signpost.Collection.Compile
import Signpost.Collection.Fingerprint
import Signpost.Registry
import Signpost.Router.Config
import Signpost.Url.Generate

/-!
# Routers

A router holds routes, settings, and handlers for the requests that no route answers.  It keeps the
matcher for its routes once it has been compiled; whatever changes the routes, or where their
matcher is stored, drops it.
-/

namespace Signpost

structure Router where
  collection       : Collection := {}
  config           : Config := {}
  registry         : Registry := {}
  /-- The matcher for the routes, once it has been compiled. -/
  memo             : Option Matcher := none
  /-- Answers `OPTIONS` requests in the place of the router. -/
  globalOptions    : Option Handler := none
  notFound         : Option Handler := none
  methodNotAllowed : Option Handler := none

namespace Router

def ofConfig (config : Config) : Router := { config }

/-- The router with other routes. -/
def withCollection (r : Router) (c : Collection) : Router :=
  { r with collection := c, memo := none }

def withRoute (r : Router) (route : Route) : Router := r.withCollection (r.collection.add route)

/-- The router with a route for a single method. -/
def withHandler (r : Router) (method path : String) (h : Handler) : Router :=
  r.withRoute (.of [method] path (.callable h))

/-- The router with items in addition to its routes. -/
def withItems (r : Router) (items : List Item) : Router :=
  r.withCollection (r.collection.addItems items)

def withRegistry (r : Router) (registry : Registry) : Router := { r with registry }

def withCachePath (r : Router) (path : String) : Router :=
  { r with config := { r.config with cachePath := some path }, memo := none }

def withRedirects (r : Router) (enabled : Bool) : Router :=
  { r with config := { r.config with redirectTrailingSlash := enabled } }

def withMethodCheck (r : Router) (enabled : Bool) : Router :=
  { r with config := { r.config with handleMethodNotAllowed := enabled } }

def withOptions (r : Router) (enabled : Bool) : Router :=
  { r with config := { r.config with handleOptions := enabled } }

def withGlobalOptions (r : Router) (h : Handler) : Router := { r with globalOptions := some h }

def withNotFound (r : Router) (h : Handler) : Router := { r with notFound := some h }

def withMethodNotAllowed (r : Router) (h : Handler) : Router :=
  { r with methodNotAllowed := some h }

/-- The fingerprint of the routes under the settings of the router. -/
def fingerprint (r : Router) : String := r.collection.fingerprint r.config.compile

variable [Regex.Engine]

/-- The URL of the route with the given name. -/
def url (r : Router) (name : String) (given : List (String × String)) : Except Error String :=
  match r.collection.find? name with
  | some route => route.url given
  | none       => .error (.url (.unknownRoute name))

/-- The methods with `OPTIONS` after them, if there are any. -/
def addOptions (methods : List String) : List String :=
  if methods.isEmpty || methods.contains "OPTIONS" then methods else methods ++ ["OPTIONS"]

/-- The methods of all routes, each once. -/
def declaredMethods (r : Router) : List String :=
  distinct (r.collection.routes.flatMap Route.methods)

end Router

end Signpost
