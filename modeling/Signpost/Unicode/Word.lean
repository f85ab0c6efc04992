import Signpost.Unicode.WordData
import Signpost.Unicode.CharSet

/-!
# Unicode — Words, digits and blanks

The characters of words, the decimal digits and the white space, by the Unicode rules and within
ASCII alone.

* `isSpace_of_printed` — the printed characters of ASCII are no white space.
-/

namespace Signpost.Unicode

/-- The entries of the table, read once. -/
def wordTable : List Table.Entry := Table.read wordData

private def set (name : String) : CharSet := .ranges ((Table.find? wordTable name).getD [])

/-- The characters of words: letters, marks, decimal digits, connectors and joiners. -/
def word : CharSet := set "word"

/-- The decimal digits. -/
def digit : CharSet := set "digit"

/-- The white space. -/
def space : CharSet := set "space"

/-- Whether `c` is white space, which within ASCII is the blank and five control characters. -/
def isSpace (c : Char) : Bool :=
  c = ' ' || ('\t' ≤ c && c ≤ '\r') || ('\x7f' < c && space.contains c)

/-- The printed characters of ASCII are no white space. -/
theorem isSpace_of_printed {c : Char} (h : '!' ≤ c ∧ c ≤ '~') : isSpace c = false := by
  obtain ⟨lower, upper⟩ := h
  rw [Char.le_def, UInt32.le_iff_toNat_le] at lower upper
  simp only [isSpace, Bool.or_eq_false_iff, Bool.and_eq_false_iff, decide_eq_false_iff_not,
    Char.le_def, Char.lt_def, UInt32.le_iff_toNat_le, UInt32.lt_iff_toNat_lt]
  refine ⟨⟨?_, ?_⟩, ?_⟩
  · rintro rfl; exact absurd lower (by decide)
  · exact .inr (by simp at lower ⊢; omega)
  · exact .inl (by simp at upper ⊢; omega)

namespace Ascii

def word : CharSet := .ranges
  [('0'.toNat, '9'.toNat), ('A'.toNat, 'Z'.toNat), ('_'.toNat, '_'.toNat), ('a'.toNat, 'z'.toNat)]

def digit : CharSet := .interval '0' '9'

def space : CharSet := .ofList ['\t', '\n', '\x0b', '\x0c', '\r', ' ']

end Ascii

end Signpost.Unicode
