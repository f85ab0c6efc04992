import Signpost.Unicode.CaseFoldData
import Signpost.Unicode.CharSet

/-!
# Unicode — Case folding of sets

Two characters are the same up to case when they lie in one orbit of simple case folding; for
text without Unicode rules only the two cases of a Latin letter are.  Folding a set adds every
character that is the same up to case as one of its own.
-/

namespace Signpost

namespace Unicode

/-- The orbits in the text of the table: code points, each orbit closed by a semicolon. -/
def orbitsOf (ws : List (List Char)) : List (List Nat) :=
  let step (w : List Char) (acc : List Nat × List (List Nat)) :=
    if w.getLast? = some ';' then
      ([Table.hexNumber w.dropLast], if acc.1.isEmpty then acc.2 else acc.1 :: acc.2)
    else (Table.hexNumber w :: acc.1, acc.2)
  let (first, rest) := ws.foldr step ([], [])
  if first.isEmpty then rest else first :: rest

/-- The orbits of simple case folding that have more than one member. -/
def caseOrbits : List (List Nat) := orbitsOf (Table.words caseFoldData.toList)

/-- The two cases of each Latin letter. -/
def latinOrbits : List (List Nat) :=
  (List.range 26).map fun i => ['A'.toNat + i, 'a'.toNat + i]

end Unicode

namespace CharSet

/-- Adds the orbits that the set meets. -/
def closeUnder (orbits : List (List Nat)) (s : CharSet) : CharSet :=
  .union s (.ranges ((orbits.filter fun o => o.any s.containsCode).flatten.map fun n => (n, n)))

/-- The set together with every character that differs from one of it only in case. -/
def foldCase (unicode : Bool) (s : CharSet) : CharSet :=
  s.closeUnder (if unicode then Unicode.caseOrbits else Unicode.latinOrbits)

end CharSet

end Signpost
