import Signpost.Merge.Render
import Signpost.Regex

/-!
# Matching — Data

A compiled matcher as plain data, in the form in which it is stored: an index of literal paths,
merged expressions for all other paths, the leaves of those expressions, and for each route what
a request has to satisfy besides its path.
-/

namespace Signpost.Matcher

/-- One alternative of a merged expression, for all routes with its expression and variables. -/
structure Leaf where
  /-- The group that is in a match of the merged expression when this alternative is. -/
  marker     : Nat
  /-- The groups of the variables in the merged expression. -/
  bindings   : List Binding
  /-- The alternative as an expression of its own. -/
  expression : String
  /-- The groups of the variables in that. -/
  standalone : List Binding
  /-- The routes, ascending. -/
  routes     : List Nat
  deriving DecidableEq, Repr

/-- A merged expression, for the next few leaves. -/
structure Chunk where
  expression : String
  leafCount  : Nat
  deriving DecidableEq, Repr

/-- What a host has to match. -/
structure HostRule where
  expression : String
  bindings   : List Binding
  deriving DecidableEq, Repr

/-- What a request has to satisfy besides its path. -/
structure Requirements where
  methods  : List String
  /-- None stands for any scheme. -/
  schemes  : List String
  host     : Option HostRule
  /-- Values of variables that take no part in a match. -/
  defaults : Dict String
  deriving DecidableEq, Repr

structure Data where
  staticPaths : Dict (List Nat)
  /-- In the order in which they are tried. -/
  chunks      : List Chunk
  leaves      : List Leaf
  /-- By the index of the route. -/
  routes      : List Requirements
  /-- The limit on the size of each automaton, in bytes. -/
  sizeLimit   : Nat
  deriving DecidableEq, Repr

end Signpost.Matcher
