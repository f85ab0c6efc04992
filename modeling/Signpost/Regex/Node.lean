import Signpost.Unicode.CharSet

/-!
# Regex — Nodes

What a regular expression asks for, once its text has been read: flags are resolved, every
class is a set of characters and every capturing group carries its number.
-/

namespace Signpost.Regex

/-- The sides that a word boundary looks at. -/
inductive Boundary where
  | both       -- a word begins or ends here
  | neither    -- no word begins or ends here
  | start      -- a word begins here
  | ending     -- a word ends here
  | startHalf  -- no word character comes before
  | endingHalf -- no word character follows
  deriving DecidableEq, Repr

/-- A condition on a position, which consumes nothing. -/
inductive Look where
  | textStart
  | textEnd
  | lineStart (crlf : Bool)
  | lineEnd (crlf : Bool)
  | word (side : Boundary) (unicode : Bool)
  deriving DecidableEq, Repr

inductive Node where
  | empty
  | char (c : Char)
  | set (s : CharSet)
  | look (l : Look)
  | group (index : Nat) (name : Option String) (body : Node)
  | cat (first second : Node)
  | alt (first second : Node)
  | repetition (body : Node) (min : Nat) (max : Option Nat) (greedy : Bool)
  deriving DecidableEq, Repr, Inhabited

namespace Node

/-- Whether the node can match nothing but the empty text. -/
def matchesOnlyEmpty : Node → Bool
  | .empty | .look _      => true
  | .char _ | .set _      => false
  | .group _ _ n          => n.matchesOnlyEmpty
  | .cat a b | .alt a b   => a.matchesOnlyEmpty && b.matchesOnlyEmpty
  | .repetition n _ _ _   => n.matchesOnlyEmpty

/-- The node repeated between `min` and `max` times.  Copies beyond the first of a node that only
matches the empty text add nothing, and a repetition that admits no copy is empty. -/
def repeated (n : Node) (min : Nat) (max : Option Nat) (greedy : Bool) : Node :=
  let (min, max) :=
    if n.matchesOnlyEmpty then (Nat.min min 1, some (max.elim 1 (Nat.min · 1))) else (min, max)
  if min = 0 ∧ max = some 0 then .empty
  else if min = 1 ∧ max = some 1 then n
  else .repetition n min max greedy

/-- The nodes one after the other. -/
def sequence : List Node → Node
  | []      => .empty
  | [n]     => n
  | n :: ns => .cat n (sequence ns)

/-- The nodes as alternatives, the preferred one first. -/
def choice : List Node → Node
  | []      => .empty
  | [n]     => n
  | n :: ns => .alt n (choice ns)

/-- The number of capturing groups up to the last one.  A group that a repetition without copies has
dropped still counts when one with a higher number is there. -/
def groupCount : Node → Nat
  | .empty | .char _ | .set _ | .look _ => 0
  | .group index _ n    => Nat.max index n.groupCount
  | .cat a b | .alt a b => Nat.max a.groupCount b.groupCount
  | .repetition n _ _ _ => n.groupCount

/-- Whether some capturing group has a name. -/
def hasNamedGroup : Node → Bool
  | .empty | .char _ | .set _ | .look _ => false
  | .group _ name n     => name.isSome || n.hasNamedGroup
  | .cat a b | .alt a b => a.hasNamedGroup || b.hasNamedGroup
  | .repetition n _ _ _ => n.hasNamedGroup

/-- Whether every match begins at the start of the text, by the shape of the node. -/
def isAnchored : Node → Bool
  | .look .textStart    => true
  | .group _ _ n        => n.isAnchored
  | .cat a b            => a.isAnchored || (a.matchesOnlyEmpty && b.isAnchored)
  | .alt a b            => a.isAnchored && b.isAnchored
  | _                   => false

end Node

end Signpost.Regex
