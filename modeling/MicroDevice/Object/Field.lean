import MicroDevice.Text.Utf8

/-! # Fields of object files

Numbers of a fixed width at fixed places in a sequence of bytes. A place that is not wholly
inside has no number.
-/

namespace MicroDevice.Object

/-- The order of the bytes of a number. -/
inductive ByteOrder where
  | little
  | big
  deriving DecidableEq, Repr

/-- The number of a sequence of bytes. -/
def ByteOrder.number (order : ByteOrder) (bytes : Bytes) : Nat :=
  let ordered := match order with
    | little => bytes.reverse
    | big => bytes
  ordered.foldl (fun value byte => value * 256 + byte.toNat) 0

/-- The bytes at a place, if they are all there. -/
def slice? (bytes : Bytes) (offset length : Nat) : Option Bytes :=
  if offset + length ≤ bytes.length then some ((bytes.drop offset).take length) else none

/-- The number at a place. -/
def field? (order : ByteOrder) (bytes : Bytes) (offset width : Nat) : Option Nat :=
  (slice? bytes offset width).map order.number

end MicroDevice.Object
