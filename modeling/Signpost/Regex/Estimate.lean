import Signpost.Regex

/-!
# Regex — An engine

An engine to run expressions with, whose sizes are an estimate: those of an automaton over bytes
that has a copy of a body for each repetition.
-/

namespace Signpost.Regex

/-- The states of such an automaton.  The characters of a range take up to four bytes, which come to
about three states. -/
def Node.stateCount : Node → Nat
  | .empty | .look _          => 1
  | .char c                   => c.utf8Size
  | .set s                    => 3 * s.rangeCount + 1
  | .group _ _ n              => n.stateCount + 2
  | .cat a b                  => a.stateCount + b.stateCount
  | .alt a b                  => a.stateCount + b.stateCount + 1
  | .repetition n min max _   => max.elim (Nat.max min 1) id * (n.stateCount + 1)

/-- The automaton has states of its own before and after those of a node. -/
instance Engine.estimate : Engine where
  size n := 24 * (n.stateCount + 4)

end Signpost.Regex
