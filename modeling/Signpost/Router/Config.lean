import Signpost.Collection.Options
import Signpost.Json.Record

/-!
# Routers — Configuration

The settings of a router, and how they are read from JSON.  A missing setting keeps its default.
-/

namespace Signpost

open Json (Record)

namespace CompileOptions

/-- A strategy by its name, alone or as the only key of an object. -/
def strategyOfJson? : Json → Option Strategy
  | .string (some name)            => Strategy.ofName? name
  | .object [(some name, .null)] => Strategy.ofName? name
  | _                              => none

def ofJson? (j : Json) : Option CompileOptions := do
  let r ← Record.of? ["strategy", "size_limit"] j
  let base : CompileOptions := {}
  return {
    strategy := ← r.getD? "strategy" base.strategy strategyOfJson?
    sizeLimit := ← r.getD? "size_limit" base.sizeLimit Json.word64? }

end CompileOptions

structure Config where
  /-- Redirect to the path with a slash added to its end or taken from it, if only that one has a
  route. -/
  redirectTrailingSlash  : Bool := true
  /-- Reply with the methods that would do where only the method is in the way. -/
  handleMethodNotAllowed : Bool := true
  /-- Reply to `OPTIONS` requests that no route handles. -/
  handleOptions          : Bool := true
  /-- The file for the compiled matcher. -/
  cachePath              : Option String := none
  /-- The actions of resources by method. -/
  resourceVerbs          : Dict String := .ofList
    [("GET", "get"), ("HEAD", "get"), ("POST", "post"), ("PUT", "put"), ("PATCH", "patch"),
     ("DELETE", "delete"), ("OPTIONS", "options")]
  compile                : CompileOptions := {}
  deriving DecidableEq, Repr

namespace Config

/-- The names of the settings. -/
def fieldNames : List String :=
  ["redirect_trailing_slash", "handle_method_not_allowed", "handle_options", "cache_path",
   "resource_verbs", "compile"]

/-- The file for the compiled matcher, which may be none. -/
def pathOfJson? : Json → Option (Option String)
  | .null => some none
  | j     => j.text?.map some

def ofJson? (j : Json) : Option Config := do
  let r ← Record.of? fieldNames j
  let base : Config := {}
  return {
    redirectTrailingSlash := ←
      r.getD? "redirect_trailing_slash" base.redirectTrailingSlash Json.bool?
    handleMethodNotAllowed := ←
      r.getD? "handle_method_not_allowed" base.handleMethodNotAllowed Json.bool?
    handleOptions := ← r.getD? "handle_options" base.handleOptions Json.bool?
    cachePath := ← r.getD? "cache_path" base.cachePath pathOfJson?
    resourceVerbs := ← r.getD? "resource_verbs" base.resourceVerbs (Json.dict? Json.text?)
    compile := ← r.getD? "compile" base.compile CompileOptions.ofJson? }

end Config

end Signpost
