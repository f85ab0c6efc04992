/-!
# Machine words

Counts, indices and sizes are machine words of 64 bits.
-/

namespace Signpost

/-- The number of machine words, 2 to the power of 64. -/
def wordSize : Nat := 0x10000000000000000

end Signpost
