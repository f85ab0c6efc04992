import Signpost.Matcher.Data
import Signpost.Pattern.Fragment
import Signpost.Route

/-!
# Routes — Compilation

What the patterns of a single route come down to: the atoms of its path, and what it asks of a
request besides the path.

* `Route.compile_noMethods` — a route without methods is refused before its patterns are read.
-/

namespace Signpost

structure CompiledRoute where
  /-- The path, if it is literal. -/
  staticPath?  : Option String
  atoms        : List Atom
  /-- The expression of the path. -/
  expression   : String
  /-- The variables of the path, in the order of their groups. -/
  vars         : List String
  requirements : Matcher.Requirements
  deriving Repr

namespace CompiledRoute

/-- The expression of the host, empty for any host. -/
def hostExpression (c : CompiledRoute) : String :=
  c.requirements.host.elim "" Matcher.HostRule.expression

end CompiledRoute

namespace Route

/-- The patterns of a route: that of its path, and that of its host if it has one. -/
structure Patterns where
  path : Pattern
  host : Option Pattern

namespace Patterns

/-- Reads the pattern of the path and then that of the host. -/
def ofRoute (r : Route) : Except Error Patterns := do
  let path ← Pattern.parse r.path
  match r.domain with
  | some domain => return ⟨path, some (← Pattern.parse domain)⟩
  | none        => return ⟨path, none⟩

/-- Whether one of the patterns has a variable of the given name. -/
def hasVariable (p : Patterns) (name : String) : Bool :=
  (p.path.vars ++ p.host.elim [] Pattern.vars).any fun v => v.name = name

/-- The defaults of the variables: those of the route win over those in the host, and these over
those in the path. -/
def defaults (p : Patterns) (own : Dict String) : Dict String :=
  ((p.path.defaults.insertAll (p.host.elim [] fun h => h.defaults.toList)).insertAll
    (own.toList.filter fun e => p.hasVariable e.1))

end Patterns

/-- The rule for the host, whose case does not matter. -/
def hostRule (atoms : List Atom) : Matcher.HostRule :=
  let (expression, bindings) := Merged.standalone atoms
  ⟨"(?i)" ++ expression, bindings⟩

variable [Regex.Engine]

def compile (r : Route) : Except Error CompiledRoute := do
  if r.methods.isEmpty then throw (.noMethods r.describe)
  if r.path.toList.head? ≠ some '/' then throw (.pattern r.path r.path .relativePath)
  let path ← Pattern.parse r.path
  let atoms ← path.atoms pathSegment r.patterns
  let (pattern?, host) ← match r.domain with
    | some domain => do
      let pattern ← Pattern.parse domain
      let atoms ← pattern.atoms hostSegment r.patterns
      pure (some pattern, some (hostRule atoms))
    | none => pure (none, none)
  return {
    staticPath? := path.staticText?
    atoms
    expression := String.ofList (Atom.expression atoms)
    vars := Atom.vars atoms
    requirements := {
      methods := r.methods
      schemes := r.schemes
      host
      defaults := (Patterns.mk path pattern?).defaults r.defaults } }

theorem compile_noMethods {r : Route} (h : r.methods = []) :
    r.compile = .error (.noMethods r.describe) := by
  simp [compile, h, throw, throwThe, MonadExceptOf.throw, bind, Except.bind]

end Route

end Signpost
