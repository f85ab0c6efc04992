/-!
# Unicode — Tables

A set of code points is a list of inclusive ranges.  A property of characters is written as a
text (`Table.read`): each entry opens with the names of one of its values, joined by commas and
closed by a colon, and goes on with the boundaries of its ranges as hexadecimal distances.
-/

namespace Signpost.Unicode

/-- Inclusive ranges of code points. -/
abbrev Ranges := List (Nat × Nat)

/-- The first code point past the end. -/
def codePoints : Nat := 0x110000

namespace Ranges

def contains (rs : Ranges) (n : Nat) : Bool :=
  rs.any fun r => r.1 ≤ n && n ≤ r.2

@[simp] theorem contains_nil (n : Nat) : contains [] n = false := rfl

/-- The ranges between successive boundaries: the first boundary opens a range, the second
closes it, and so on. -/
def ofBoundaries : List Nat → Ranges
  | a :: b :: rest => (a, b - 1) :: ofBoundaries rest
  | [a]            => [(a, codePoints - 1)]
  | []             => []

end Ranges

namespace Table

/-- The words of a text, which blanks and line ends separate. -/
def words (text : List Char) : List (List Char) :=
  let step (c : Char) (acc : List Char × List (List Char)) :=
    if c = ' ' || c = '\n' then ([], if acc.1.isEmpty then acc.2 else acc.1 :: acc.2)
    else (c :: acc.1, acc.2)
  let (last, rest) := text.foldr step ([], [])
  if last.isEmpty then rest else last :: rest

def hexDigit (c : Char) : Nat :=
  if c.isDigit then c.toNat - '0'.toNat else c.toNat - 'A'.toNat + 10

def hexNumber (word : List Char) : Nat :=
  word.foldl (fun n c => 16 * n + hexDigit c) 0

/-- The names in the heading of an entry, `none` for a word that is not a heading. -/
def heading? (word : List Char) : Option (List String) :=
  if word.getLast? = some ':' then some ((word.dropLast.splitOn ',').map String.ofList) else none

/-- The running sums of a list of distances. -/
def positions : Nat → List Nat → List Nat
  | _, []      => []
  | n, d :: ds => (n + d) :: positions (n + d) ds

/-- An entry of a table: the names of a value and its code points. -/
structure Entry where
  names  : List String
  ranges : Ranges

/-- The entry whose heading and distances are given. -/
def Entry.ofDistances (names : List String) (distances : List Nat) : Entry :=
  ⟨names, Ranges.ofBoundaries (positions 0 distances)⟩

/-- The entries of a table, from its words: those after the last heading so far are collected
from the right. -/
def ofWords (ws : List (List Char)) : List Entry :=
  let step (w : List Char) (acc : List Nat × List Entry) :=
    match heading? w with
    | some names => ([], .ofDistances names acc.1 :: acc.2)
    | none       => (hexNumber w :: acc.1, acc.2)
  (ws.foldr step ([], [])).2

/-- The entries of a table in the form described above. -/
def read (text : String) : List Entry := ofWords (words text.toList)

/-- The code points of the value called `name`. -/
def find? (entries : List Entry) (name : String) : Option Ranges :=
  (entries.find? fun e => e.names.contains name).map Entry.ranges

end Table

end Signpost.Unicode
