/-!
# URLs — Form encoding

Pairs of names and values as the query of a URL.  Letters, digits and four marks stand for
themselves, a plus stands for a space, and every other byte is written as a percent sign and two
hexadecimal digits.
-/

namespace Signpost.Form

/-- Whether a byte stands for itself. -/
def isPlain (b : UInt8) : Bool :=
  let c := Char.ofUInt8 b
  c.isAlphanum || c = '*' || c = '-' || c = '.' || c = '_'

/-- A hexadecimal digit, letters in upper case. -/
def hexDigit (n : Nat) : Char := (Nat.digitChar n).toUpper

def encodeByte (b : UInt8) : List Char :=
  if isPlain b then [Char.ofUInt8 b]
  else if b = 0x20 then ['+']
  else ['%', hexDigit (b.toNat / 16), hexDigit (b.toNat % 16)]

def encodeText (text : String) : List Char := text.toUTF8.toList.flatMap encodeByte

def encodePair (pair : String × String) : List Char :=
  encodeText pair.1 ++ '=' :: encodeText pair.2

/-- The pairs in order, separated by ampersands. -/
def encode (pairs : List (String × String)) : String :=
  String.ofList (['&'].intercalate (pairs.map encodePair))

end Signpost.Form
