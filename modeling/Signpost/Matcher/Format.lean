import Signpost.Json.Record
import Signpost.Matcher.Data

/-!
# Matching — Format

The data of a matcher as JSON: each record becomes an object with a field for each of its own.
-/

namespace Signpost

open Json (Record)

namespace Binding

def toJson (b : Binding) : Json :=
  .ofFields [("name", .ofText b.name), ("group", .ofNat b.group)]

def ofJson? (j : Json) : Option Binding := do
  let r ← Record.of? ["name", "group"] j
  return { name := ← r.get? "name" Json.text?, group := ← r.get? "group" Json.word64? }

end Binding

namespace Matcher

namespace Leaf

def toJson (l : Leaf) : Json :=
  .ofFields [
    ("marker", .ofNat l.marker),
    ("bindings", .ofList Binding.toJson l.bindings),
    ("regex", .ofText l.expression),
    ("standalone", .ofList Binding.toJson l.standalone),
    ("routes", .ofList .ofNat l.routes)]

def ofJson? (j : Json) : Option Leaf := do
  let r ← Record.of? ["marker", "bindings", "regex", "standalone", "routes"] j
  return {
    marker := ← r.get? "marker" Json.word64?
    bindings := ← r.get? "bindings" (Json.list? Binding.ofJson?)
    expression := ← r.get? "regex" Json.text?
    standalone := ← r.get? "standalone" (Json.list? Binding.ofJson?)
    routes := ← r.get? "routes" (Json.list? Json.word64?) }

end Leaf

namespace Chunk

def toJson (c : Chunk) : Json :=
  .ofFields [("regex", .ofText c.expression), ("leaves", .ofNat c.leafCount)]

def ofJson? (j : Json) : Option Chunk := do
  let r ← Record.of? ["regex", "leaves"] j
  return {
    expression := ← r.get? "regex" Json.text?
    leafCount := ← r.get? "leaves" Json.word64? }

end Chunk

namespace HostRule

def toJson (h : HostRule) : Json :=
  .ofFields [("regex", .ofText h.expression), ("bindings", .ofList Binding.toJson h.bindings)]

def ofJson? (j : Json) : Option HostRule := do
  let r ← Record.of? ["regex", "bindings"] j
  return {
    expression := ← r.get? "regex" Json.text?
    bindings := ← r.get? "bindings" (Json.list? Binding.ofJson?) }

end HostRule

namespace Requirements

def toJson (r : Requirements) : Json :=
  .ofFields [
    ("methods", .ofTexts r.methods),
    ("schemes", .ofTexts r.schemes),
    ("host", r.host.elim .null HostRule.toJson),
    ("defaults", .ofDict .ofText r.defaults)]

def ofJson? (j : Json) : Option Requirements := do
  let r ← Record.of? ["methods", "schemes", "host", "defaults"] j
  return {
    methods := ← r.get? "methods" Json.texts?
    schemes := ← r.get? "schemes" Json.texts?
    host := ← r.nullable? "host" HostRule.ofJson?
    defaults := ← r.get? "defaults" (Json.dict? Json.text?) }

end Requirements

namespace Data

def toJson (d : Data) : Json :=
  .ofFields [
    ("static_paths", .ofDict (.ofList .ofNat) d.staticPaths),
    ("chunks", .ofList Chunk.toJson d.chunks),
    ("leaves", .ofList Leaf.toJson d.leaves),
    ("routes", .ofList Requirements.toJson d.routes),
    ("size_limit", .ofNat d.sizeLimit)]

/-- Reads data, whose limit on the size of automata may be missing. -/
def ofJson? (j : Json) : Option Data := do
  let r ← Record.of? ["static_paths", "chunks", "leaves", "routes", "size_limit"] j
  return {
    staticPaths := ← r.get? "static_paths" (Json.dict? (Json.list? Json.word64?))
    chunks := ← r.get? "chunks" (Json.list? Chunk.ofJson?)
    leaves := ← r.get? "leaves" (Json.list? Leaf.ofJson?)
    routes := ← r.get? "routes" (Json.list? Requirements.ofJson?)
    sizeLimit := ← r.getD? "size_limit" Regex.defaultSizeLimit Json.word64? }

end Data

end Matcher

end Signpost
