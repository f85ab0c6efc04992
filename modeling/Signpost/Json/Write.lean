import Signpost.Json.Basic

/-!
# JSON — Writing

A value as text, without blanks.  In a string, quotation marks, backslashes and control characters
are escaped, and nothing else is.

* `Json.escape_of_isPlainChar` — a character that needs no escape is written as itself.
-/

namespace Signpost.Json

/-- Whether a character stands for itself in a string literal. -/
def isPlainChar (c : Char) : Bool := ' ' ≤ c && c != '"' && c != '\\'

def escape (c : Char) : List Char :=
  if isPlainChar c then [c]
  else match c with
    | '"'    => ['\\', '"']
    | '\\'   => ['\\', '\\']
    | '\n'   => ['\\', 'n']
    | '\r'   => ['\\', 'r']
    | '\t'   => ['\\', 't']
    | '\x08' => ['\\', 'b']
    | '\x0c' => ['\\', 'f']
    | c      =>
      ['\\', 'u', '0', '0', Nat.digitChar (c.toNat / 16), Nat.digitChar (c.toNat % 16)]

/-- The literal of a text; half of a surrogate pair stands for any literal without a text. -/
def quote : Option String → List Char
  | some text => '"' :: text.toList.flatMap escape ++ ['"']
  | none      => ['"', '\\', 'u', 'd', '8', '0', '0', '"']

mutual

def write : Json → List Char
  | .null           => ['n', 'u', 'l', 'l']
  | .bool true      => ['t', 'r', 'u', 'e']
  | .bool false     => ['f', 'a', 'l', 's', 'e']
  | .number literal => literal.toList
  | .string text?   => quote text?
  | .array items    => '[' :: writeItems items ++ [']']
  | .object entries => '{' :: writeEntries entries ++ ['}']

def writeItems : List Json → List Char
  | []            => []
  | [item]        => write item
  | item :: items => write item ++ ',' :: writeItems items

def writeEntries : List (Option String × Json) → List Char
  | []                      => []
  | [(key, value)]          => quote key ++ ':' :: write value
  | (key, value) :: entries => quote key ++ ':' :: write value ++ ',' :: writeEntries entries

end

def render (j : Json) : String := String.ofList (write j)

theorem escape_of_isPlainChar {c : Char} (h : isPlainChar c = true) : escape c = [c] := by
  simp [escape, h]

end Signpost.Json
