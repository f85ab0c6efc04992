import Signpost.Regex.Match
import Signpost.Regex.Parser

/-!
# Regex

Regular expressions as a value: `Regex.compile` reads a text under a limit on the size of the
automaton that it asks for, and `Regex.captures?` finds the leftmost match in a text.

How large an automaton is depends on the engine that makes it (`Regex.Engine`).  Nothing is known
about the sizes: what is said of expressions, and of all that is made of them, is said for any
engine.
-/

namespace Signpost

namespace Regex

/-- The engine that makes automata: how many bytes the one for a node takes. -/
class Engine where
  size : Node → Nat

/-- Why a text is not accepted as a regular expression. -/
inductive Fault where
  | badText
  | tooBig
  deriving DecidableEq, Repr

end Regex

structure Regex where
  root : Regex.Node
  deriving DecidableEq, Repr, Inhabited

/-- The spans of a match. -/
structure Regex.Captures where
  text  : Array Char
  spans : List (Nat × Regex.Span)
  deriving Repr

namespace Regex

/-- The largest automaton unless a limit is given, in bytes. -/
def defaultSizeLimit : Nat := 10 * 0x100000

/-- Reads an expression. -/
def compile [Engine] (text : String) (sizeLimit : Nat) : Except Fault Regex :=
  match Node.ofText? text.toList with
  | none   => .error .badText
  | some n => if Engine.size n ≤ sizeLimit then .ok ⟨n⟩ else .error .tooBig

/-- The leftmost match in `text`. -/
def captures? (r : Regex) (text : String) : Option Captures :=
  let text := text.toList.toArray
  (r.root.search? text).map fun s => ⟨text, s.spans⟩

def isMatch (r : Regex) (text : String) : Bool := (r.captures? text).isSome

/-- The number of capturing groups. -/
def groupCount (r : Regex) : Nat := r.root.groupCount

def hasNamedGroup (r : Regex) : Bool := r.root.hasNamedGroup

/-- The text that group `index` captured last, if it took part in the match. -/
def Captures.get? (c : Captures) (index : Nat) : Option String :=
  (c.spans.lookup index).map fun s => String.ofList (c.text.extract s.start s.stop).toList

end Regex

end Signpost
