import Signpost.Proofs.Text.Bytes
import Signpost.Url.Form

/-!
# URLs — what a query says

A client splits a query at the ampersands and each part at its first equals sign, and decodes the
names and the values (`Form.decode?`).  What is encoded comes back as it was, in its order and with
all repetitions.

* `Form.decodeBytes_encodeByte`: each byte comes back, whatever is behind it.
* `Form.decode?_encode`: so do the pairs.
-/

namespace Signpost.Form

/-! ### Decoding -/

/-- The value of a hexadecimal digit. -/
def hexValue? (c : Char) : Option Nat :=
  if '0' ≤ c ∧ c ≤ '9' then some (c.toNat - '0'.toNat)
  else if 'A' ≤ c ∧ c ≤ 'F' then some (c.toNat - 'A'.toNat + 10)
  else if 'a' ≤ c ∧ c ≤ 'f' then some (c.toNat - 'a'.toNat + 10)
  else none

/-- The bytes that a text stands for: a plus for a space, a percent sign for the byte behind it, if
there is one in two digits, and every other character for itself. -/
def decodeBytes : List Char → List UInt8
  | []                  => []
  | '+' :: cs           => 0x20 :: decodeBytes cs
  | '%' :: c :: d :: cs =>
    match hexValue? c, hexValue? d with
    | some high, some low => UInt8.ofNat (16 * high + low) :: decodeBytes cs
    | _, _                => 0x25 :: decodeBytes (c :: d :: cs)
  | c :: cs             => String.utf8EncodeChar c ++ decodeBytes cs

/-- The text that a text stands for, unless its bytes are none. -/
def decodeText? (cs : List Char) : Option String :=
  String.fromUTF8? (decodeBytes cs).toByteArray

/-- A name and a value, around the first equals sign; without one there is a name only. -/
def decodePair? (cs : List Char) : Option (String × String) := do
  let name ← decodeText? (cs.takeWhile (· != '='))
  let value ← decodeText? ((cs.dropWhile (· != '=')).drop 1)
  return (name, value)

/-- The pairs of a query, empty parts left out. -/
def decode? (query : String) : Option (List (String × String)) :=
  ((List.splitOn '&' query.toList).filter fun cs => !cs.isEmpty).mapM decodePair?

/-! ### Bytes -/

/-- A byte that stands for itself is an ASCII character without a meaning of its own. -/
theorem char_of_isPlain {b : UInt8} (h : isPlain b = true) :
    Char.ofUInt8 b ∉ ['%', '+', '&', '='] ∧ String.utf8EncodeChar (Char.ofUInt8 b) = [b] := by
  have hall : ∀ n < 256, isPlain (UInt8.ofNat n) = true →
      Char.ofUInt8 (UInt8.ofNat n) ∉ ['%', '+', '&', '='] ∧
        String.utf8EncodeChar (Char.ofUInt8 (UInt8.ofNat n)) = [UInt8.ofNat n] := by
    decide +kernel
  have hb := hall b.toNat b.toNat_lt
  rw [UInt8.ofNat_toNat] at hb
  exact hb h

theorem hexValue?_hexDigit {n : Nat} (h : n < 16) : hexValue? (hexDigit n) = some n := by
  have hall : ∀ n < 16, hexValue? (hexDigit n) = some n := by decide +kernel
  exact hall n h

theorem decodeBytes_cons {c : Char} (hpercent : c ≠ '%') (hplus : c ≠ '+') (cs : List Char) :
    decodeBytes (c :: cs) = String.utf8EncodeChar c ++ decodeBytes cs := by
  rw [decodeBytes]
  · exact hplus
  · exact fun _ _ _ heq => absurd heq hpercent

/-- **Each byte comes back.** -/
theorem decodeBytes_encodeByte (b : UInt8) (rest : List Char) :
    decodeBytes (encodeByte b ++ rest) = b :: decodeBytes rest := by
  unfold encodeByte
  split
  case isTrue hplain =>
    obtain ⟨hchar, hbyte⟩ := char_of_isPlain hplain
    simp only [List.mem_cons, List.not_mem_nil, or_false, not_or] at hchar
    rw [List.singleton_append, decodeBytes_cons hchar.1 hchar.2.1, hbyte, List.singleton_append]
  case isFalse =>
    split
    case isTrue hspace => rw [List.singleton_append, decodeBytes, hspace]
    case isFalse =>
      have hlt : b.toNat < 256 := b.toNat_lt
      have hhigh : b.toNat / 16 < 16 := by omega
      have hlow : b.toNat % 16 < 16 := by omega
      simp only [List.cons_append, List.nil_append, decodeBytes, hexValue?_hexDigit hhigh,
        hexValue?_hexDigit hlow, Nat.div_add_mod, UInt8.ofNat_toNat]

theorem decodeBytes_flatMap (bytes : List UInt8) :
    decodeBytes (bytes.flatMap encodeByte) = bytes := by
  induction bytes with
  | nil => rfl
  | cons b bytes ih => rw [List.flatMap_cons, decodeBytes_encodeByte, ih]

theorem decodeText?_encodeText (text : String) : decodeText? (encodeText text) = some text := by
  rw [decodeText?, encodeText, decodeBytes_flatMap, Text.fromUTF8?_toList]

/-! ### Pairs -/

/-- What is encoded has no separators in it. -/
theorem separator_notMem_encodeText {c : Char} (hc : c = '&' ∨ c = '=') (text : String) :
    c ∉ encodeText text := by
  intro hmem
  obtain ⟨b, -, hb⟩ := List.mem_flatMap.1 hmem
  have hdigit : ∀ n < 16, hexDigit n ≠ '&' ∧ hexDigit n ≠ '=' := by decide +kernel
  have hlt : b.toNat < 256 := b.toNat_lt
  have hhigh := hdigit (b.toNat / 16) (by omega)
  have hlow := hdigit (b.toNat % 16) (by omega)
  unfold encodeByte at hb
  split at hb
  case isTrue hplain =>
    have hchar := (char_of_isPlain hplain).1
    rw [← List.mem_singleton.1 hb] at hchar
    rcases hc with rfl | rfl <;> simp at hchar
  case isFalse =>
    split at hb
    case isTrue => rcases hc with rfl | rfl <;> simp at hb
    case isFalse =>
      simp only [List.mem_cons, List.not_mem_nil, or_false] at hb
      rcases hb with rfl | rfl | rfl
      · exact absurd hc (by decide)
      · exact hc.elim hhigh.1 hhigh.2
      · exact hc.elim hlow.1 hlow.2

theorem decodePair?_encodePair (pair : String × String) :
    decodePair? (encodePair pair) = some pair := by
  have hall : ∀ c ∈ encodeText pair.1, (c != '=') = true := by
    rintro c hc
    refine bne_iff_ne.2 ?_
    rintro rfl
    exact separator_notMem_encodeText (.inr rfl) pair.1 hc
  have htake : (encodePair pair).takeWhile (· != '=') = encodeText pair.1 := by
    rw [encodePair, List.takeWhile_append_of_pos hall, List.takeWhile_cons_of_neg (by simp),
      List.append_nil]
  have hdrop : (encodePair pair).dropWhile (· != '=') = '=' :: encodeText pair.2 := by
    rw [encodePair, List.dropWhile_append_of_pos hall, List.dropWhile_cons_of_neg (by simp)]
  rw [decodePair?, htake, hdrop, List.drop_one, List.tail_cons, decodeText?_encodeText,
    decodeText?_encodeText]
  rfl

theorem ampersand_notMem_encodePair (pair : String × String) : '&' ∉ encodePair pair := by
  simp [encodePair, separator_notMem_encodeText (.inl rfl : '&' = '&' ∨ _)]

/-- **A query says what was encoded**, pair by pair. -/
theorem decode?_encode (pairs : List (String × String)) : decode? (encode pairs) = some pairs := by
  have hparts : (List.splitOn '&' (encode pairs).toList).filter (fun cs => !cs.isEmpty) =
      pairs.map encodePair := by
    rw [encode, String.toList_ofList]
    cases pairs with
    | nil => rfl
    | cons pair pairs =>
        rw [List.splitOn_intercalate '&' _ (by simp)]
        · refine List.filter_eq_self.2 fun cs hcs => ?_
          obtain ⟨pair, -, rfl⟩ := List.mem_map.1 hcs
          simp [encodePair]
        · intro cs hcs
          obtain ⟨pair, -, rfl⟩ := List.mem_map.1 hcs
          exact ampersand_notMem_encodePair pair
  have hpure : decodePair? ∘ encodePair = pure := funext decodePair?_encodePair
  rw [decode?, hparts, List.mapM_map, hpure, List.mapM_pure, List.map_id']
  rfl

end Signpost.Form
