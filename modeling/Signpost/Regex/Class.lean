import Signpost.Regex.Escape

/-!
# Regex — Bracketed classes

The sets in brackets: characters, ranges, escapes and nested classes, joined by being written next
to each other, and by intersection `&&`, difference `--` and symmetric difference `~~`, which
bind equally and to the left.

A class also counts how deeply it is nested (`Part.depth`): a bracket, an operation and a union
of several parts are one level each.
-/

namespace Signpost.Regex.Class

/-- A part of a class, with its depth. -/
structure Part where
  set   : CharSet := .empty
  depth : Nat := 0
  deriving Repr, Inhabited

/-- The parts written next to each other so far. -/
structure Items where
  set   : CharSet := .empty
  count : Nat := 0
  depth : Nat := 0
  deriving Repr, Inhabited

namespace Items

def add (items : Items) (part : Part) : Items :=
  ⟨.union items.set part.set, items.count + 1, Nat.max items.depth part.depth⟩

/-- The union of the parts. -/
def toPart (items : Items) : Part :=
  ⟨items.set, if items.count ≤ 1 then items.depth else items.depth + 1⟩

end Items

inductive Operation where
  | intersection
  | difference
  | symmetricDifference
  deriving DecidableEq, Repr

namespace Operation

/-- The operation that a doubled character stands for. -/
def ofChar? : Char → Option Operation
  | '&' => some .intersection
  | '-' => some .difference
  | '~' => some .symmetricDifference
  | _   => none

def apply : Operation → CharSet → CharSet → CharSet
  | .intersection        => .inter
  | .difference          => .diff
  | .symmetricDifference => .symmDiff

end Operation

/-- The sets that have a name between colons. -/
def named? (name : String) : Option CharSet :=
  let upper := ('A'.toNat, 'Z'.toNat)
  let lower := ('a'.toNat, 'z'.toNat)
  let digit := ('0'.toNat, '9'.toNat)
  match name with
  | "alnum"  => some (.ranges [digit, upper, lower])
  | "alpha"  => some (.ranges [upper, lower])
  | "ascii"  => some (.ranges [(0x00, 0x7F)])
  | "blank"  => some (.ofList ['\t', ' '])
  | "cntrl"  => some (.ranges [(0x00, 0x1F), (0x7F, 0x7F)])
  | "digit"  => some (.ranges [digit])
  | "graph"  => some (.interval '!' '~')
  | "lower"  => some (.ranges [lower])
  | "print"  => some (.interval ' ' '~')
  | "punct"  => some (.ranges [(0x21, 0x2F), (0x3A, 0x40), (0x5B, 0x60), (0x7B, 0x7E)])
  | "space"  => some Unicode.Ascii.space
  | "upper"  => some (.ranges [upper])
  | "word"   => some Unicode.Ascii.word
  | "xdigit" => some (.ranges [digit, ('A'.toNat, 'F'.toNat), ('a'.toNat, 'f'.toNat)])
  | _        => none

/-- Folds the case of a set and negates it.  Without the rules of Unicode a complement could
match part of a character, and is refused. -/
def close? (fs : Flags) (negated : Bool) (s : CharSet) : Option CharSet :=
  if negated && !fs.has .unicode then none else some (.negateIf negated (fs.fold s))

/-- A set named between colons, after the bracket: the set and the text after it.  The outer
option is `none` when this is no such set. -/
def colonSet? (fs : Flags) (cs : List Char) : Option (Option CharSet × List Char) := do
  let cs ← Scan.after? [':'] cs
  let negated := cs.head? = some '^'
  let cs := if negated then cs.drop 1 else cs
  let s ← named? (String.ofList (cs.takeWhile (· != ':')))
  let rest ← Scan.after? [':', ']'] (cs.dropWhile (· != ':'))
  return (close? fs negated s, rest)

/-- A single part of a range, or one that cannot be: a character or an escape. -/
def atom? (fs : Flags) : List Char → Option (Escaped × List Char)
  | []         => none
  | '\\' :: cs => Escaped.read? fs cs
  | c :: cs    => some (.char c, cs)

/-- The character that decides whether a hyphen before `cs` makes a range.  In a verbose
expression blanks and one number sign do not count, unless nothing else is left. -/
def peek? (verbose : Bool) (cs : List Char) : Option Char :=
  if !verbose then cs.head?
  else
    let found := match cs.dropWhile Unicode.isSpace with
      | '#' :: rest => rest.dropWhile Unicode.isSpace
      | rest        => rest
    if found.isEmpty then cs.head? else found.head?

/-- An escape on its own in a class. -/
def single? (fs : Flags) : Escaped → Option CharSet
  | .set s => some s
  | e      => (e.classChar? fs).map .singleton

/-- A character, an escape or a range. -/
def range? (fs : Flags) (cs : List Char) : Option (CharSet × List Char) := do
  let verbose := fs.has .verbose
  let (first, rest) ← atom? fs cs
  match Scan.skip verbose rest with
  | []           => none
  | '-' :: after =>
    let next := peek? verbose after
    if next = some ']' || next = some '-' then return (← single? fs first, '-' :: after)
    else
      let (last, rest) ← atom? fs (Scan.skip verbose after)
      let lo ← first.classChar? fs
      let hi ← last.classChar? fs
      if lo ≤ hi then return (.interval lo hi, rest) else none
  | rest         => return (← single? fs first, rest)

/-- What opens a class, after its bracket: whether it is negated, and the hyphens or the closing
bracket that stand for themselves at its beginning. -/
def opening (verbose : Bool) (cs : List Char) : Bool × Items × List Char :=
  let literal (c : Char) : Part := ⟨.singleton c, 0⟩
  let cs := Scan.skip verbose cs
  let (negated, cs) := match cs with
    | '^' :: cs => (true, Scan.skip verbose cs)
    | cs        => (false, cs)
  let (hyphens, cs) := Scan.takeSkipping verbose (· = '-') cs.length cs
  let items := hyphens.foldl (fun (items : Items) c => items.add (literal c)) {}
  match cs, items.count with
  | ']' :: cs, 0 => (negated, items.add (literal ']'), Scan.skip verbose cs)
  | cs, _        => (negated, items, cs)

/-- Applies a pending operation to the part on its right. -/
def combine (fs : Flags) (pending : Option (Operation × Part)) (right : Part) : Part :=
  match pending with
  | none            => right
  | some (op, left) =>
    ⟨op.apply (fs.fold left.set) (fs.fold right.set), Nat.max left.depth right.depth + 1⟩

/-- Reads a class up to its closing bracket, given the operation that waits for its right side
and the parts since then. -/
def body? (fs : Flags) : Nat → Option (Operation × Part) → Items → List Char →
    Option (Part × List Char)
  | 0, _, _, _                     => none
  | fuel + 1, pending, items, text =>
    match Scan.skip (fs.has .verbose) text with
    | []          => none
    | ']' :: rest => some (combine fs pending items.toPart, rest)
    | '[' :: rest =>
      match colonSet? fs rest with
      | some (s?, rest) => do
        let s ← s?
        body? fs fuel pending (items.add ⟨s, 0⟩) rest
      | none => do
        let (negated, inner, rest) := opening (fs.has .verbose) rest
        let (part, rest) ← body? fs fuel none inner rest
        let s ← close? fs negated part.set
        body? fs fuel pending (items.add ⟨s, part.depth + 1⟩) rest
    | c :: rest =>
      match Operation.ofChar? c, rest with
      | some op, d :: rest' =>
        if d = c then body? fs fuel (some (op, combine fs pending items.toPart)) {} rest'
        else do
          let (s, rest) ← range? fs (c :: rest)
          body? fs fuel pending (items.add ⟨s, 0⟩) rest
      | _, _ => do
        let (s, rest) ← range? fs (c :: rest)
        body? fs fuel pending (items.add ⟨s, 0⟩) rest

/-- Reads a class after its opening bracket. -/
def read? (fs : Flags) (text : List Char) : Option (Part × List Char) := do
  let (negated, items, rest) := opening (fs.has .verbose) text
  let (part, rest) ← body? fs (rest.length + 1) none items rest
  let s ← close? fs negated part.set
  return (⟨s, part.depth + 1⟩, rest)

end Signpost.Regex.Class
