import MicroDevice.Data.Datum

/-! # Reading scalars

Readers for the single values of a document: texts, truth values and natural numbers below
a bound. A value of another type, or a number out of range, is a data fault that names what
was found and what was expected.
-/

namespace MicroDevice.Datum

/-- The text of a string. -/
def text : Datum → Except ReadFault String
  | string text => .ok text
  | other => .error (other.mismatch "a string")

/-- The truth value of a boolean. -/
def truth : Datum → Except ReadFault Bool
  | boolean value => .ok value
  | other => .error (other.mismatch "a boolean")

/-- The value of an integer from zero up to, and without, a bound. -/
def natural (bound : Nat) (expected : String) : Datum → Except ReadFault Nat
  | integer value =>
      if 0 ≤ value ∧ value < bound then .ok value.toNat
      else .error (.data (.invalidValue (.integer value) expected))
  | other => .error (other.mismatch expected)

/-- The value of an integer of 16 bits. -/
def word16 (datum : Datum) : Except ReadFault UInt16 :=
  UInt16.ofNat <$> datum.natural UInt16.size "u16"

/-- The value of an integer of 32 bits. -/
def word32 (datum : Datum) : Except ReadFault UInt32 :=
  UInt32.ofNat <$> datum.natural UInt32.size "u32"

/-- The value of an integer of 64 bits. -/
def word64 (datum : Datum) : Except ReadFault UInt64 :=
  UInt64.ofNat <$> datum.natural UInt64.size "u64"

/-- What a reader makes of a datum that may be null. -/
def nullable {α : Type} (read : Datum → Except ReadFault α) : Datum → Except ReadFault (Option α)
  | null => .ok none
  | other => some <$> read other

end MicroDevice.Datum
