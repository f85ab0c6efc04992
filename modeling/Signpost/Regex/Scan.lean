import Signpost.Unicode.Word

/-!
# Regex — Scanning

The small texts inside a regular expression: blanks and comments, which count for nothing where
the expression is verbose, and numbers.
-/

namespace Signpost.Regex.Scan

/-- Drops blanks and comments; a comment runs from a number sign to the end of its line. -/
def dropComments : (inComment : Bool) → List Char → List Char
  | _, []           => []
  | true, c :: cs   => dropComments (c != '\n') cs
  | false, c :: cs  =>
    if Unicode.isSpace c then dropComments false cs
    else if c = '#' then dropComments true cs
    else c :: cs

/-- Drops what does not count before the next character. -/
def skip (verbose : Bool) (cs : List Char) : List Char :=
  if verbose then dropComments false cs else cs

/-- The text after `word`, if the given one begins with it. -/
def after? : (word : List Char) → List Char → Option (List Char)
  | [], cs           => some cs
  | w :: ws, c :: cs => if w = c then after? ws cs else none
  | _ :: _, []       => none

/-- The characters that satisfy `p` from here on, with `skip` after each of them. -/
def takeSkipping (verbose : Bool) (p : Char → Bool) : Nat → List Char → List Char × List Char
  | fuel + 1, c :: cs =>
    if p c then
      let (taken, rest) := takeSkipping verbose p fuel (skip verbose cs)
      (c :: taken, rest)
    else ([], c :: cs)
  | _, cs             => ([], cs)

/-- The largest number of copies that a repetition can ask for. -/
def maxCount : Nat := 0xFFFFFFFF

/-- A decimal number between optional blanks.  The first component is `none` when there is no
digit or the number is out of range. -/
def decimal (verbose : Bool) (cs : List Char) : Option Nat × List Char :=
  let cs := cs.dropWhile Unicode.isSpace
  let (digits, rest) := takeSkipping verbose Char.isDigit cs.length cs
  let (_, rest) := takeSkipping verbose Unicode.isSpace rest.length rest
  let n := digits.foldl (fun n c => 10 * n + (c.toNat - '0'.toNat)) 0
  (if digits.isEmpty || maxCount < n then none else some n, rest)

def hexValue? (c : Char) : Option Nat :=
  if c.isDigit then some (c.toNat - '0'.toNat)
  else if 'a' ≤ c ∧ c ≤ 'f' then some (c.toNat - 'a'.toNat + 10)
  else if 'A' ≤ c ∧ c ≤ 'F' then some (c.toNat - 'A'.toNat + 10)
  else none

/-- The character whose code point the hexadecimal digits give. -/
def charOfHex? (digits : List Char) : Option Char := do
  let values ← digits.mapM hexValue?
  let n := values.foldl (fun n d => 16 * n + d) 0
  if h : n.isValidChar then some ⟨n.toUInt32, by
    simpa [UInt32.isValidChar, Nat.toUInt32, Nat.mod_eq_of_lt
      (show n < 4294967296 by rcases h with h | h <;> omega)] using h⟩ else none

/-- Exactly `count` hexadecimal digits, with `skip` between them. -/
def hexDigits? (verbose : Bool) : (count : Nat) → List Char → Option (List Char × List Char)
  | 0, cs              => some ([], cs)
  | count + 1, c :: cs => do
    let _ ← hexValue? c
    let (digits, rest) ← hexDigits? verbose count (skip verbose cs)
    return (c :: digits, rest)
  | _ + 1, []          => none

/-- The text up to the next closing brace, and what follows the brace. -/
def upToBrace? (verbose : Bool) (cs : List Char) : Option (List Char × List Char) :=
  match takeSkipping verbose (· != '}') cs.length cs with
  | (inner, _ :: rest) => some (inner, rest)
  | (_, [])            => none

end Signpost.Regex.Scan
