import Signpost.Unicode.Table

/-!
# Unicode — Sets of characters

A set of characters as the expression that describes it: ranges, and the operations of a
bracketed class.  What it holds is computed on demand (`CharSet.contains`).
-/

namespace Signpost

open Unicode (Ranges)

inductive CharSet where
  | ranges (rs : Ranges)
  | union (a b : CharSet)
  | inter (a b : CharSet)
  | diff (a b : CharSet)
  | symmDiff (a b : CharSet)
  | compl (a : CharSet)
  deriving DecidableEq, Repr, Inhabited

namespace CharSet

/-- Whether the code point `n` is in the set. -/
def containsCode : CharSet → Nat → Bool
  | .ranges rs, n    => rs.contains n
  | .union a b, n    => a.containsCode n || b.containsCode n
  | .inter a b, n    => a.containsCode n && b.containsCode n
  | .diff a b, n     => a.containsCode n && !b.containsCode n
  | .symmDiff a b, n => a.containsCode n != b.containsCode n
  | .compl a, n      => !a.containsCode n

def contains (s : CharSet) (c : Char) : Bool := s.containsCode c.toNat

/-- The number of ranges in the description of the set. -/
def rangeCount : CharSet → Nat
  | .ranges rs     => rs.length
  | .union a b     => a.rangeCount + b.rangeCount
  | .inter a b     => a.rangeCount + b.rangeCount
  | .diff a b      => a.rangeCount + b.rangeCount
  | .symmDiff a b  => a.rangeCount + b.rangeCount
  | .compl a       => a.rangeCount + 1

/-- The set without characters. -/
def empty : CharSet := .ranges []

def singleton (c : Char) : CharSet := .ranges [(c.toNat, c.toNat)]

/-- The characters from `lo` to `hi`. -/
def interval (lo hi : Char) : CharSet := .ranges [(lo.toNat, hi.toNat)]

def ofList (cs : List Char) : CharSet := .ranges (cs.map fun c => (c.toNat, c.toNat))

/-- The set, or its complement when `negated` says so. -/
def negateIf (negated : Bool) (s : CharSet) : CharSet := if negated then .compl s else s

end CharSet

end Signpost
