/-! # Address arithmetic on 64-bit words

Addresses and sizes are `UInt64`. Sums that may leave the address space are
partial (`add?`, `sum?`) or stop at its top (`addSaturating`); rounding goes to a
multiple of a step (`roundDown`, `roundUp`). Where the program adds up words without a
check, a sum that is not a word is a panic (`overflowText`).
-/

namespace MicroDevice.Word

/-- The sum of two words, when it is a word. -/
def add? (a b : UInt64) : Option UInt64 :=
  if a.toNat + b.toNat < UInt64.size then some (a + b) else none

/-- The sum of two words, or the greatest word when the sum is greater. -/
def addSaturating (a b : UInt64) : UInt64 :=
  (add? a b).getD (UInt64.ofNat (UInt64.size - 1))

/-- The sum of a list of words, when every partial sum is a word. -/
def sum? (words : List UInt64) : Option UInt64 :=
  words.foldlM add? 0

/-- The message of the panic that an unchecked sum ends in when it is not a word. -/
def overflowText : String := "attempt to add with overflow"

/-- The greatest multiple of `step` that is at most `value`; zero for step zero. -/
def roundDown (value step : UInt64) : UInt64 :=
  value - value % step

/-- The least multiple of `step` that is at least `value`, modulo the word size. -/
def roundUp (value step : UInt64) : UInt64 :=
  (value / step + if value % step = 0 then 0 else 1) * step

end MicroDevice.Word
