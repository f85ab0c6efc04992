import Signpost.Dict

/-!
# Patterns — Tokens

A pattern is literal text with placeholders: variables, which may carry a constraint and a
default, and optional segments, which may nest.
-/

namespace Signpost

inductive Token where
  | text (content : String)
  | var (name : String) (constraint default : Option String)
  | optional (inner : List Token)
  deriving Repr, Inhabited, BEq

/-- A variable of a pattern: how many optional segments surround it, and its default. -/
structure Variable where
  name       : String
  depth      : Nat
  constraint : Option String
  default    : Option String
  deriving DecidableEq, Repr

namespace Token

/-- The variables of a token, in the order in which they are written. -/
def vars (depth : Nat) : Token → List Variable
  | .text _                      => []
  | .var name constraint default => [⟨name, depth, constraint, default⟩]
  | .optional inner              => inner.flatMap (vars (depth + 1))

/-- Adds up pairs of numbers. -/
def total (counts : List (Nat × Nat)) : Nat × Nat :=
  counts.foldr (fun a b => (a.1 + b.1, a.2 + b.2)) (0, 0)

/-- The number of variables and of optional segments. -/
def dynamism : Token → Nat × Nat
  | .text _         => (0, 0)
  | .var ..         => (1, 0)
  | .optional inner => total ((0, 1) :: inner.map dynamism)

/-- The text of literal text. -/
def text? : Token → Option String
  | .text content => some content
  | _             => none

end Token

/-- A parsed pattern, with the text that it was parsed from. -/
structure Pattern where
  source : String
  tokens : List Token
  deriving Repr, Inhabited

namespace Pattern

/-- The variables in the order in which they are written. -/
def vars (p : Pattern) : List Variable := p.tokens.flatMap (Token.vars 0)

/-- The default values that the pattern itself gives. -/
def defaults (p : Pattern) : Dict String :=
  .ofList (p.vars.filterMap fun v => v.default.map fun value => (v.name, value))

/-- The text of a pattern without placeholders. -/
def staticText? (p : Pattern) : Option String :=
  (p.tokens.mapM Token.text?).map String.join

/-- The number of variables and of optional segments. -/
def dynamism (p : Pattern) : Nat × Nat := Token.total (p.tokens.map Token.dynamism)

end Pattern

end Signpost
