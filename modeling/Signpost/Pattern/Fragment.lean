import Signpost.Pattern.Parser

/-!
# Patterns — Fragments

What a pattern asks of a text, as a list of atoms: single characters, and groups, which are
regular expressions of their own.  A variable is a capturing group around its constraint; an
optional segment is a group that may be left out.

* `Atom.text_append` — the expression of a list of atoms is that of its parts, one after another.
-/

namespace Signpost

/-- What an unconstrained variable of a path matches. -/
def pathSegment : String := "[^/]+"

/-- What an unconstrained variable of a host matches. -/
def hostSegment : String := "[^.]+"

inductive Atom where
  | char (c : Char)
  /-- A parenthesized expression.  `captures` has an entry for each capturing group in it, in the
  order of their parentheses: the variable that the group holds, if it holds one.  A segment is
  an unconstrained variable of a path. -/
  | group (expression : String) (captures : List (Option String)) (isSegment : Bool)
  deriving DecidableEq, Repr

namespace Atom

/-- The expression of an atom. -/
def text : Atom → List Char
  | .char c       => Regex.escapeChar c
  | .group e _ _  => e.toList

/-- The capturing groups of an atom. -/
def captures : Atom → List (Option String)
  | .char _      => []
  | .group _ c _ => c

/-- The expression of a list of atoms. -/
def expression (atoms : List Atom) : List Char := atoms.flatMap text

/-- The variables of a list of atoms, in the order of their groups. -/
def vars (atoms : List Atom) : List String := (atoms.flatMap captures).filterMap id

theorem text_append (as bs : List Atom) :
    expression (as ++ bs) = expression as ++ expression bs :=
  List.flatMap_append

end Atom

/-- The expression that a constraint alone asks of the whole of a text. -/
def anchoredConstraint (constraint : String) : String := "^(?:" ++ constraint ++ ")$"

/-- The constraint of a variable: one given for its name, else its own, else the one of its
segment. -/
def effectiveConstraint (overrides : Dict String) (segment name : String)
    (own : Option String) : String :=
  ((overrides.get? name).or own).getD segment

namespace Pattern

variable [Regex.Engine]

/-- The number of capturing groups in a constraint, which must be an expression without names for
its groups. -/
def checkConstraint (source name constraint : String) : Except Error Nat :=
  match Regex.compile (anchoredConstraint constraint) Regex.defaultSizeLimit with
  | .error _ => .error (.constraint source name)
  | .ok r    =>
    if r.hasNamedGroup then .error (.pattern source constraint .namedGroup) else .ok r.groupCount

/-- The atoms of a token. -/
def tokenAtoms (source segment : String) (overrides : Dict String) :
    Token → Except Error (List Atom)
  | .text content => .ok (content.toList.map .char)
  | .var name own _ => do
    let constraint := effectiveConstraint overrides segment name own
    let inner ← checkConstraint source name constraint
    return [.group ("(" ++ constraint ++ ")") (some name :: List.replicate inner none)
      (constraint = pathSegment)]
  | .optional inner => do
    let atoms ← inner.mapM (tokenAtoms source segment overrides)
    let atoms := atoms.flatten
    return [.group ("(?:" ++ String.ofList (Atom.expression atoms) ++ ")?")
      (atoms.flatMap Atom.captures) false]

/-- The atoms of the pattern, where `segment` constrains the variables without a constraint and
`overrides` replaces constraints by name. -/
def atoms (p : Pattern) (segment : String) (overrides : Dict String) :
    Except Error (List Atom) := do
  return (← p.tokens.mapM (tokenAtoms p.source segment overrides)).flatten

end Pattern

end Signpost
