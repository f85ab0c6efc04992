import Signpost.Regex.Flags
import Signpost.Regex.Scan
import Signpost.Unicode.Property

/-!
# Regex — Escapes

What follows a backslash: a character, a set of characters or a condition on the position.  Back
references and unknown letters are refused.

* `read_escapeChar` — a backslash before a character with a meaning of its own takes it away.
-/

namespace Signpost.Regex

/-- The characters with a meaning of their own somewhere in a regular expression. -/
def metaChars : List Char :=
  ['\\', '.', '+', '*', '?', '(', ')', '|', '[', ']', '{', '}', '^', '$', '#', '&', '-', '~']

/-- A character as an expression for itself. -/
def escapeChar (c : Char) : List Char := if metaChars.contains c then ['\\', c] else [c]

/-- What a backslash and the text after it stand for. -/
inductive Escaped where
  | char (c : Char)
  | byte (n : Nat)     -- a code given by two hexadecimal digits
  | set (s : CharSet)
  | look (l : Look)
  deriving Repr

namespace Escaped

/-- Whether a backslash makes `c` stand for itself: an ASCII character that is neither a letter
nor a digit nor an angle bracket. -/
def isQuotable (c : Char) : Bool :=
  c.toNat < 128 && !c.isAlphanum && c != '<' && c != '>'

/-- The control characters with a letter of their own. -/
def control? : Char → Option Char
  | 'a' => some '\x07'
  | 'f' => some '\x0c'
  | 'n' => some '\n'
  | 'r' => some '\r'
  | 't' => some '\t'
  | 'v' => some '\x0b'
  | _   => none

/-- A set between its two letters: small for the set, capital for its complement.  Without the
rules of Unicode a complement could match part of a character, and is refused. -/
def classSet? (fs : Flags) (c : Char) : Option CharSet :=
  let unicode := fs.has .unicode
  let s? := match c.toLower with
    | 'd' => some (if unicode then Unicode.digit else Unicode.Ascii.digit)
    | 's' => some (if unicode then Unicode.space else Unicode.Ascii.space)
    | 'w' => some (if unicode then Unicode.word else Unicode.Ascii.word)
    | _   => none
  if c.isUpper && !unicode then none else s?.map (.negateIf c.isUpper)

/-- The name and the value in the name of a property, which `!=`, a colon or an equals sign
separates. -/
def splitQuery (query : List Char) : List Char × Option (List Char) :=
  let rec unequal : List Char → Option (List Char × List Char)
    | '!' :: '=' :: rest => some ([], rest)
    | c :: rest          => (unequal rest).map fun (name, value) => (c :: name, value)
    | []                 => none
  let at? (sep : Char) :=
    if query.contains sep then
      some (query.takeWhile (· != sep), (query.dropWhile (· != sep)).drop 1)
    else none
  match unequal query <|> at? ':' <|> at? '=' with
  | some (name, value) => (name, some value)
  | none               => (query, none)

/-- The set that a query for a property names. -/
def querySet? (query : List Char) : Option CharSet :=
  match splitQuery query with
  | (name, some value) => Unicode.propertyValue? name value
  | (name, none)       => Unicode.property? name

/-- A property: a single letter, or a query in braces. -/
def property? (fs : Flags) (negated : Bool) (cs : List Char) : Option (Escaped × List Char) := do
  let verbose := fs.has .verbose
  let (query, rest) ← match Scan.skip verbose cs with
    | '{' :: cs => Scan.upToBrace? verbose (Scan.skip verbose cs)
    | '\\' :: _    => none
    | c :: cs      => some ([c], cs)
    | []           => none
  if !fs.has .unicode then none
  else
    let s ← querySet? query
    return (.set (.negateIf negated (fs.fold s)), rest)

/-- A character by its code: `count` hexadecimal digits, or any number of them in braces. -/
def hex? (fs : Flags) (count : Nat) (cs : List Char) : Option (Escaped × List Char) := do
  let verbose := fs.has .verbose
  match Scan.skip verbose cs with
  | '{' :: cs =>
    let (digits, rest) ← Scan.upToBrace? verbose (Scan.skip verbose cs)
    if digits.isEmpty then none
    else return (.char (← Scan.charOfHex? digits), rest)
  | cs =>
    let (digits, rest) ← Scan.hexDigits? verbose count cs
    let c ← Scan.charOfHex? digits
    return (if count = 2 then .byte c.toNat else .char c, rest)

/-- The sides that a word boundary names in braces. -/
def boundary? : String → Option Boundary
  | "start"      => some .start
  | "end"        => some .ending
  | "start-half" => some .startHalf
  | "end-half"   => some .endingHalf
  | _            => none

/-- A word boundary, with or without a name in braces.  Braces that do not open with a letter or a
hyphen are left to the repetition that they must be. -/
def wordBoundary? (fs : Flags) (cs : List Char) : Option (Escaped × List Char) :=
  let verbose := fs.has .verbose
  let look (side : Boundary) := Escaped.look (.word side (fs.has .unicode))
  let isNameChar (c : Char) := c.isAlpha || c = '-'
  match cs with
  | '{' :: inner =>
    match Scan.skip verbose inner with
    | []          => none
    | c :: inner' =>
      if !isNameChar c then some (look .both, cs)
      else match Scan.takeSkipping verbose isNameChar (inner'.length + 1) (c :: inner') with
        | (name, '}' :: rest) => (boundary? (String.ofList name)).map fun side => (look side, rest)
        | _                      => none
  | _ => some (look .both, cs)

/-- Reads what follows a backslash. -/
def read? (fs : Flags) : List Char → Option (Escaped × List Char)
  | []      => none
  | c :: cs =>
    let look (l : Look) := some (Escaped.look l, cs)
    let unicode := fs.has .unicode
    if c.isDigit then none
    else if isQuotable c then some (.char c, cs)
    else match control? c with
      | some d => some (.char d, cs)
      | none   =>
        match c with
        | 'x' => hex? fs 2 cs
        | 'u' => hex? fs 4 cs
        | 'U' => hex? fs 8 cs
        | 'p' => property? fs false cs
        | 'P' => property? fs true cs
        | 'd' | 's' | 'w' | 'D' | 'S' | 'W' => (classSet? fs c).map fun s => (.set s, cs)
        | 'A' => look .textStart
        | 'z' => look .textEnd
        | 'b' => wordBoundary? fs cs
        | 'B' => look (.word .neither unicode)
        | '<' => look (.word .start unicode)
        | '>' => look (.word .ending unicode)
        | _   => none

/-- The node that the escape stands for.  A byte that is not ASCII stands for a character only by
the rules of Unicode. -/
def node? (fs : Flags) : Escaped → Option Node
  | .char c => some (fs.charNode c)
  | .byte n =>
    if n < 128 || fs.has .unicode then some (fs.charNode (Char.ofNat n)) else none
  | .set s  => some (.set s)
  | .look l => some (.look l)

/-- The character that the escape stands for in a class, which holds only ASCII without the rules
of Unicode. -/
def classChar? (fs : Flags) : Escaped → Option Char
  | .char c => if c.toNat < 128 || fs.has .unicode then some c else none
  | .byte n => if n < 128 || fs.has .unicode then some (Char.ofNat n) else none
  | _       => none

end Escaped

/-- Reading what `escapeChar` writes gives the character back. -/
theorem read_escapeChar {fs : Flags} {c : Char} {cs : List Char} (h : metaChars.contains c = true) :
    Escaped.read? fs (c :: cs) = some (.char c, cs) := by
  have h' : c ∈ metaChars := by simpa using h
  simp only [metaChars, List.mem_cons, List.not_mem_nil, or_false] at h'
  rcases h' with h | h | h | h | h | h | h | h | h | h | h | h | h | h | h | h | h | h <;>
    subst h <;> rfl

end Signpost.Regex
