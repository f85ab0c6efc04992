import Signpost.Json.Basic

/-!
# JSON — Tokens

The text of a value as marks and scalars.  The lexer takes one character at a time; a word, which is
a number or one of three names, ends where the next character cannot belong to it.
-/

namespace Signpost.Json

/-- A bracket, brace, colon or comma, or a value without parts. -/
inductive Lexeme where
  | mark (c : Char)
  | scalar (value : Json)
  deriving Repr, Inhabited

/-! ### String literals -/

/-- A piece of a string literal: a character, or a unit of UTF-16 that is written as a number. -/
inductive Piece where
  | char (c : Char)
  | unit (n : Nat)
  deriving DecidableEq, Repr

/-- The text of a string literal.  Two units that make up a surrogate pair are one character; half
of a pair is none. -/
def decode : List Piece → Option (List Char)
  | []             => some []
  | .char c :: ps  => (decode ps).map (c :: ·)
  | .unit n :: ps  =>
    if 0xD800 ≤ n ∧ n < 0xDC00 then
      match ps with
      | .unit m :: ps =>
        if 0xDC00 ≤ m ∧ m < 0xE000 then
          (decode ps).map (Char.ofNat (0x10000 + (n - 0xD800) * 0x400 + (m - 0xDC00)) :: ·)
        else none
      | _             => none
    else if 0xDC00 ≤ n ∧ n < 0xE000 then none
    else (decode ps).map (Char.ofNat n :: ·)

/-- The character that a backslash and `c` stand for. -/
def unescape? (c : Char) : Option Char :=
  match c with
  | '"' | '\\' | '/' => some c
  | 'b'              => some '\x08'
  | 'f'              => some '\x0c'
  | 'n'              => some '\n'
  | 'r'              => some '\r'
  | 't'              => some '\t'
  | _                => none

/-- The value of a hexadecimal digit. -/
def hexValue? (c : Char) : Option Nat :=
  if c.isDigit then some (c.toNat - '0'.toNat)
  else if 'a' ≤ c ∧ c ≤ 'f' then some (c.toNat - 'a'.toNat + 10)
  else if 'A' ≤ c ∧ c ≤ 'F' then some (c.toNat - 'A'.toNat + 10)
  else none

/-! ### Words -/

/-- What follows the whole part of a number: digits after a point, and then an exponent. -/
def isFraction (text : List Char) : Bool :=
  let isExponent (text : List Char) : Bool :=
    match text with
    | []      => true
    | e :: cs =>
      let digits := match cs with
        | '+' :: ds | '-' :: ds => ds
        | ds                    => ds
      (e = 'e' || e = 'E') && !digits.isEmpty && digits.all Char.isDigit
  match text with
  | '.' :: cs => (cs.head?.any Char.isDigit) && isExponent (cs.dropWhile Char.isDigit)
  | cs        => isExponent cs

/-- Whether a word is a number.  Its whole part does not begin with a zero unless it is one. -/
def isNumber (text : List Char) : Bool :=
  match (match text with | '-' :: cs => cs | cs => cs) with
  | '0' :: cs => isFraction cs
  | c :: cs   => c.isDigit && isFraction (cs.dropWhile Char.isDigit)
  | []        => false

/-- The value that a word stands for. -/
def ofWord? (word : String) : Option Json :=
  match word with
  | "null"  => some .null
  | "true"  => some (.bool true)
  | "false" => some (.bool false)
  | word    => if isNumber word.toList then some (.number word) else none

/-! ### The lexer -/

def isMark (c : Char) : Bool :=
  c = '[' || c = ']' || c = '{' || c = '}' || c = ':' || c = ','

def isBlank (c : Char) : Bool := c = ' ' || c = '\n' || c = '\t' || c = '\r'

/-- Whether a word cannot go on with the character, or with the end of the text. -/
def endsWord (c? : Option Char) : Bool :=
  c?.all fun c => isMark c || isBlank c || c = '"'

/-- Where the lexer stands; what it has read of a token comes with the latest first. -/
inductive Inside where
  | nothing
  | word (cs : List Char)
  | string (ps : List Piece)
  /-- After a backslash. -/
  | escape (ps : List Piece)
  /-- In the number of a unit, of which `missing` digits are still to come. -/
  | unit (ps : List Piece) (missing value : Nat)
  deriving Repr

structure Lexer where
  inside  : Inside := .nothing
  /-- The tokens, the latest first. -/
  lexemes : List Lexeme := []
  deriving Repr

namespace Lexer

def emit (l : Lexer) (t : Lexeme) : Lexer := ⟨.nothing, t :: l.lexemes⟩

/-- Takes a character of a word, given the one after it. -/
def stepWord (l : Lexer) (word : List Char) (next? : Option Char) : Option Lexer :=
  if endsWord next? then (ofWord? (String.ofList word.reverse)).map fun v => l.emit (.scalar v)
  else some { l with inside := .word word }

/-- Takes a character, given the one after it. -/
def step (l : Lexer) (c : Char) (next? : Option Char) : Option Lexer :=
  match l.inside with
  | .nothing =>
    if isMark c then some (l.emit (.mark c))
    else if isBlank c then some l
    else if c = '"' then some { l with inside := .string [] }
    else l.stepWord [c] next?
  | .word cs => l.stepWord (c :: cs) next?
  | .string ps =>
    if c = '"' then
      some (l.emit (.scalar (.string ((decode ps.reverse).map String.ofList))))
    else if c = '\\' then some { l with inside := .escape ps }
    else if c < ' ' then none
    else some { l with inside := .string (.char c :: ps) }
  | .escape ps =>
    if c = 'u' then some { l with inside := .unit ps 4 0 }
    else (unescape? c).map fun c => { l with inside := .string (.char c :: ps) }
  | .unit ps missing value =>
    (hexValue? c).map fun digit =>
      let value := 16 * value + digit
      if missing ≤ 1 then { l with inside := .string (.unit value :: ps) }
      else { l with inside := .unit ps (missing - 1) value }

def run (l : Lexer) : List Char → Option Lexer
  | []      => some l
  | c :: cs =>
    match l.step c cs.head? with
    | some l => run l cs
    | none   => none

end Lexer

/-- The tokens of a text. -/
def lex? (text : List Char) : Option (List Lexeme) :=
  match Lexer.run {} text with
  | some ⟨.nothing, lexemes⟩ => some lexemes.reverse
  | _                        => none

end Signpost.Json
