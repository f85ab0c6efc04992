import Mathlib.Data.List.Basic

/-!
# Texts — as bytes

The list of the bytes of a text, as an encoding goes through it.

* `toList_bytes`: the bytes of an array are those of its data.
* `fromUTF8?_toList`: the bytes of a text are those of no other.
-/

namespace Signpost.Text

theorem toList_loop (bytes : ByteArray) (i : Nat) (acc : List UInt8) :
    ByteArray.toList.loop bytes i acc = acc.reverse ++ bytes.data.toList.drop i := by
  fun_induction ByteArray.toList.loop bytes i acc with
  | case1 i acc hlt ih =>
      have hlt' : i < bytes.data.toList.length := by simpa using hlt
      have hget : bytes.get! i = bytes.data.toList[i] := by
        have hdata : bytes.get! i = bytes.data[i]! := rfl
        rw [hdata, getElem!_pos bytes.data i hlt, Array.getElem_toList]
      rw [ih, List.reverse_cons, List.append_assoc, List.singleton_append, hget,
        List.drop_eq_getElem_cons hlt']
  | case2 i acc hge =>
      have hge' : bytes.data.toList.length ≤ i := by simpa using hge
      rw [List.drop_eq_nil_of_le hge', List.append_nil]

theorem toList_bytes (bytes : ByteArray) : bytes.toList = bytes.data.toList :=
  toList_loop bytes 0 []

theorem fromUTF8?_toList (text : String) :
    String.fromUTF8? text.toUTF8.toList.toByteArray = some text := by
  have hbytes : text.toUTF8.toList.toByteArray = text.toByteArray := by
    rw [toList_bytes, String.toUTF8_eq_toByteArray]
    exact ByteArray.ext (List.data_toByteArray.trans (Array.toArray_toList ..))
  rw [hbytes, String.fromUTF8?, dif_pos text.isValidUTF8]
  rfl

end Signpost.Text
