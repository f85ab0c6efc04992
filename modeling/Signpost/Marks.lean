/-!
# Marks

Sets of small numbers, each number a bit of a single one.

* `Marks.contains_insert` — an insertion marks its number and changes no other mark.
-/

namespace Signpost

structure Marks where
  bits : Nat
  deriving DecidableEq, Repr, Inhabited

namespace Marks

def empty : Marks := ⟨0⟩

def contains (m : Marks) (n : Nat) : Bool := m.bits.testBit n

def insert (m : Marks) (n : Nat) : Marks := ⟨m.bits ||| 1 <<< n⟩

@[simp] theorem contains_empty (n : Nat) : empty.contains n = false := Nat.zero_testBit n

@[simp] theorem contains_insert (m : Marks) (n k : Nat) :
    (m.insert n).contains k = (decide (k = n) || m.contains k) := by
  have bit : (1 <<< n).testBit k = decide (k = n) := by
    rw [Nat.testBit_shiftLeft]
    by_cases h : k = n
    · simp [h]
    · cases hd : k - n with
      | zero =>
        have : ¬ n ≤ k := by omega
        simp [h, this]
      | succ d => simp [h, Nat.testBit_succ]
  simp only [insert, contains, Nat.testBit_or, bit, Bool.or_comm]

end Marks

end Signpost
