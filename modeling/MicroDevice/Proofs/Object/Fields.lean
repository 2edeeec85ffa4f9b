import Mathlib.Algebra.GroupWithZero.Nat
import Mathlib.Data.List.Basic
import MicroDevice.Simulation.Library

/-! # Fields that were written

What was written at a place is read there: a number of a record (`field?_record`), and a record
among others of one length (`slice?_flatMap`).
-/

namespace MicroDevice

/-! ## Numbers -/

namespace Simulation

theorem littleEndian_succ (count value : Nat) :
    littleEndian (count + 1) value = UInt8.ofNat value :: littleEndian count (value / 256) := by
  unfold littleEndian
  rw [List.range_succ_eq_map, List.map_cons, List.map_map]
  congr 1
  apply List.map_congr_left
  intro place _
  have shifts : value >>> (8 * (place + 1)) = (value / 256) >>> (8 * place) := by
    rw [Nat.mul_add, Nat.add_comm, Nat.shiftRight_add, Nat.shiftRight_eq_div_pow value]
  exact congrArg UInt8.ofNat shifts

@[simp] theorem length_littleEndian (count value : Nat) :
    (littleEndian count value).length = count := by
  unfold littleEndian
  rw [List.length_map, List.length_range]

end Simulation

namespace Object

open Simulation

/-- The bytes of a number in reverse are read back in the other order. -/
theorem number_big_reverse_littleEndian {width value : Nat} (fits : value < 256 ^ width) :
    ByteOrder.big.number (littleEndian width value).reverse = value := by
  induction width generalizing value with
  | zero =>
      have zero : value = 0 := Nat.lt_one_iff.mp fits
      rw [zero]
      rfl
  | succ width ih =>
      have higher : value / 256 < 256 ^ width := by
        rw [Nat.div_lt_iff_lt_mul (by decide), ← Nat.pow_succ]
        exact fits
      have split := Nat.div_add_mod value 256
      have number := ih higher
      unfold ByteOrder.number at number ⊢
      dsimp only at number ⊢
      rw [littleEndian_succ, List.reverse_cons, List.foldl_append, number, List.foldl_cons,
        List.foldl_nil, UInt8.toNat_ofNat']
      omega

/-- A number that fits is read back from its bytes, in either order. -/
theorem number_bytes (order : ByteOrder) {width value : Nat} (fits : value < 256 ^ width) :
    order.number (order.bytes width value) = value := by
  cases order with
  | little => exact number_big_reverse_littleEndian fits
  | big => exact number_big_reverse_littleEndian fits

@[simp] theorem length_bytes (order : ByteOrder) (width value : Nat) :
    (order.bytes width value).length = width := by
  cases order with
  | little => exact length_littleEndian width value
  | big => exact List.length_reverse.trans (length_littleEndian width value)

/-! ## Places -/

/-- The middle of three parts is the slice at its offset. -/
theorem slice?_middle {bytes before middle after : Bytes} {offset length : Nat}
    (split : bytes = before ++ middle ++ after) (begins : before.length = offset)
    (ends : middle.length = length) : slice? bytes offset length = some middle := by
  subst split begins ends
  have inside : before.length + middle.length ≤ (before ++ middle ++ after).length := by
    rw [List.length_append, List.length_append]
    exact Nat.le_add_right _ _
  rw [slice?, if_pos inside, List.append_assoc, List.drop_left, List.take_left]

/-- A field that is written between other bytes is read back at its offset. -/
theorem field?_middle {order : ByteOrder} {bytes before after : Bytes} {offset width value : Nat}
    (split : bytes = before ++ order.bytes width value ++ after)
    (begins : before.length = offset) (fits : value < 256 ^ width) :
    field? order bytes offset width = some value := by
  rw [field?, slice?_middle split begins (length_bytes order width value), Option.map_some,
    number_bytes order fits]

/-- A record takes the sum of its fields' widths. -/
theorem length_record (order : ByteOrder) (fields : List (Nat × Nat)) :
    (record order fields).length = (fields.map Prod.fst).sum := by
  rw [record, List.length_flatMap]
  congr 1
  apply List.map_congr_left
  intro field _
  exact length_bytes order field.1 field.2

/-- Bytes in front of a field move its offset. -/
theorem field?_append (order : ByteOrder) (before bytes : Bytes) (offset width : Nat) :
    field? order (before ++ bytes) (before.length + offset) width =
      field? order bytes offset width := by
  unfold field? slice?
  rw [List.length_append, Nat.add_assoc, List.drop_length_add_append]
  simp only [Nat.add_le_add_iff_left]

/-- A number of a record is read where those before it end. -/
theorem field?_record {order : ByteOrder} {fields : List (Nat × Nat)} {offset width value : Nat}
    (index : Nat) (held : fields[index]? = some (width, value))
    (begins : ((fields.take index).map Prod.fst).sum = offset) (fits : value < 256 ^ width) :
    field? order (record order fields) offset width = some value := by
  obtain ⟨inside, same⟩ := List.getElem?_eq_some_iff.mp held
  have parts : fields = fields.take index ++ (width, value) :: fields.drop (index + 1) := by
    rw [← same, List.getElem_cons_drop, List.take_append_drop]
  have split : record order fields = record order (fields.take index) ++
      order.bytes width value ++ record order (fields.drop (index + 1)) := by
    conv_lhs => rw [parts]
    simp only [record, List.flatMap_append, List.flatMap_cons, List.append_assoc]
  apply field?_middle split _ fits
  rw [length_record, begins]

/-- Values encoded with one width take that width each. -/
theorem length_flatMap_of_uniform {α : Type} {encode : α → Bytes} {width : Nat}
    (uniform : ∀ value, (encode value).length = width) (values : List α) :
    (values.flatMap encode).length = values.length * width := by
  rw [List.length_flatMap, List.map_congr_left fun value _ => uniform value]
  simp

/-- Of records of one length, the one at an index is read after so many of them. -/
theorem slice?_flatMap {α : Type} {encode : α → Bytes} {width : Nat}
    (uniform : ∀ value, (encode value).length = width) (values : List α)
    {bytes before after : Bytes}
    (split : bytes = before ++ values.flatMap encode ++ after) {index : Nat}
    (inside : index < values.length) :
    slice? bytes (before.length + index * width) width = some (encode values[index]) := by
  have parts : values = values.take index ++ values[index] :: values.drop (index + 1) := by
    rw [List.getElem_cons_drop, List.take_append_drop]
  have around : bytes = (before ++ (values.take index).flatMap encode) ++ encode values[index] ++
      ((values.drop (index + 1)).flatMap encode ++ after) := by
    rw [split]
    conv_lhs => rw [parts]
    simp only [List.flatMap_append, List.flatMap_cons, List.append_assoc]
  apply slice?_middle around _ (uniform _)
  rw [List.length_append, length_flatMap_of_uniform uniform, List.length_take,
    Nat.min_eq_left (Nat.le_of_lt inside)]

/-- Reading at each index in turn reads a list if each of its values is read. -/
theorem mapM_range'_eq_some {α : Type} {read : Nat → Option α} {values : List α} {start : Nat}
    (reads : ∀ (index : Nat) (inside : index < values.length),
      read (start + index) = some values[index]) :
    (List.range' start values.length).mapM read = some values := by
  induction values generalizing start with
  | nil => rfl
  | cons value later ih =>
      have first := reads 0 (Nat.zero_lt_succ _)
      have others : (List.range' (start + 1) later.length).mapM read = some later := by
        apply ih
        intro index inside
        rw [Nat.add_assoc, Nat.add_comm 1]
        exact reads (index + 1) (Nat.succ_lt_succ inside)
      rw [List.length_cons, List.range'_succ, List.mapM_cons, others]
      rw [Nat.add_zero] at first
      rw [first]
      rfl

/-- Values that can be read one by one can be read as a list. -/
theorem mapM_range_eq_some {α : Type} {read : Nat → Option α} {values : List α} {count : Nat}
    (size : values.length = count)
    (reads : ∀ (index : Nat) (inside : index < values.length), read index = some values[index]) :
    (List.range count).mapM read = some values := by
  subst size
  rw [List.range_eq_range']
  apply mapM_range'_eq_some
  intro index inside
  rw [Nat.zero_add]
  exact reads index inside

end Object

end MicroDevice
