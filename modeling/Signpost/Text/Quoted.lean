import Signpost.Unicode.Property

/-!
# Text — Quoted text

A text between quotation marks, in which what cannot be shown is written as an escape: quotation
marks, backslashes, control characters, blanks other than the space, marks that extend the
character before them, and code points without a character.
-/

namespace Signpost.Quoted

/-- Whether a character is shown as itself. -/
def isPrintable (c : Char) : Bool :=
  if c.toNat < 128 then ' ' ≤ c && c ≤ '~'
  else
    let hidden := ["cc", "cf", "co", "cn", "zl", "zp", "zs"].any fun name =>
      (Unicode.category? name).any (·.contains c)
    let isMark := (Unicode.property? "Grapheme_Extend".toList).any (·.contains c)
    !hidden && !isMark

/-- The escape of a code point by its number. -/
def escapeCode (n : Nat) : List Char :=
  ['\\', 'u', '{'] ++ Nat.toDigits 16 n ++ ['}']

def escape (c : Char) : List Char :=
  match c with
  | '\x00' => ['\\', '0']
  | '\t'   => ['\\', 't']
  | '\r'   => ['\\', 'r']
  | '\n'   => ['\\', 'n']
  | '"'    => ['\\', '"']
  | '\\'   => ['\\', '\\']
  | c      => if isPrintable c then [c] else escapeCode c.toNat

/-- The text between quotation marks. -/
def quote (text : String) : String :=
  String.ofList ('"' :: text.toList.flatMap escape ++ ['"'])

/-- The quoted texts in brackets. -/
def quoteList (texts : List String) : String :=
  "[" ++ ", ".intercalate (texts.map quote) ++ "]"

end Signpost.Quoted
