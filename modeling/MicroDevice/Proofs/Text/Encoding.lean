import Mathlib.Data.String.Basic
import MicroDevice.Text.Utf8

/-! # Encoded texts

A text is read back from its bytes, they hold a zero byte only if it has that character, and
texts are in the order of their bytes (`encode_lt_encode_iff`).
-/

namespace MicroDevice.Text

theorem encode_ofList (chars : List Char) :
    encode (String.ofList chars) = chars.flatMap String.utf8EncodeChar := by
  unfold encode String.toUTF8
  rw [String.toByteArray_ofList, List.utf8Encode]
  simp

/-- Decoding an encoded text gives the text back. -/
@[simp] theorem decode?_encode (text : String) : decode? (encode text) = some text := by
  unfold decode? encode String.toUTF8 String.fromUTF8?
  rw [Array.toArray_toList, dif_pos text.isValidUTF8]
  rfl

theorem ofNat_ne_zero {value : Nat} (positive : 0 < value) (small : value < 256) :
    0 ≠ UInt8.ofNat value := by
  intro zero
  have same := congrArg UInt8.toNat zero
  rw [UInt8.toNat_ofNat', Nat.mod_eq_of_lt small, UInt8.toNat_zero] at same
  omega

/-- Only the character of code zero has a zero byte: all bytes of others that are longer have a
high bit. -/
theorem eq_zero_of_mem_utf8EncodeChar {c : Char} (member : 0 ∈ String.utf8EncodeChar c) :
    c = '\x00' := by
  unfold String.utf8EncodeChar at member
  dsimp only at member
  split at member
  · rename_i single
    by_cases zero : c.val.toNat = 0
    · exact Char.ext (UInt32.toNat_inj.mp zero)
    · exact absurd (List.mem_singleton.mp member) (ofNat_ne_zero (by omega) (by omega))
  · exfalso
    split at member
    · simp only [List.mem_cons, List.not_mem_nil, or_false] at member
      rcases member with zero | zero <;> exact ofNat_ne_zero (by omega) (by omega) zero
    · split at member <;> simp only [List.mem_cons, List.not_mem_nil, or_false] at member
      · rcases member with zero | zero | zero <;> exact ofNat_ne_zero (by omega) (by omega) zero
      · rcases member with zero | zero | zero | zero <;>
          exact ofNat_ne_zero (by omega) (by omega) zero

/-- A text without a null character is encoded without a null byte. -/
theorem zero_not_mem_encode {text : String} (whole : '\x00' ∉ text.toList) : 0 ∉ encode text := by
  rw [← String.ofList_toList (s := text), encode_ofList, List.mem_flatMap]
  rintro ⟨c, member, zero⟩
  exact whole (eq_zero_of_mem_utf8EncodeChar zero ▸ member)

/-! ## Order -/

/-- Bytes are compared by the first that is not the same. -/
theorem cons_lt_cons_of {first second : Nat} {rest others : Bytes} (small : second < 256)
    (le : first ≤ second) (later : first = second → rest < others) :
    UInt8.ofNat first :: rest < UInt8.ofNat second :: others := by
  rw [List.cons_lt_cons_iff]
  rcases Nat.lt_or_eq_of_le le with less | same
  · left
    rw [UInt8.lt_iff_toNat_lt, UInt8.toNat_ofNat', UInt8.toNat_ofNat', Nat.mod_eq_of_lt small,
      Nat.mod_eq_of_lt (by omega)]
    exact less
  · exact Or.inr ⟨congrArg UInt8.ofNat same, later same⟩

/-- Of two characters that differ, the lesser has the lesser bytes, whatever follows: a longer
encoding begins with a greater byte, and encodings of one length are compared digit by digit. -/
theorem utf8EncodeChar_append_lt {c d : Char} (less : c < d) (rest others : Bytes) :
    String.utf8EncodeChar c ++ rest < String.utf8EncodeChar d ++ others := by
  have values : c.val.toNat < d.val.toNat := less
  have inRange : d.val.toNat < 0x110000 := d.valid.elim (by omega) (by omega)
  unfold String.utf8EncodeChar
  dsimp only
  generalize c.val.toNat = v at *
  generalize d.val.toNat = w at *
  by_cases one : v ≤ 127
  · rw [if_pos one]
    split
    · exact cons_lt_cons_of (by omega) (by omega) fun same => by omega
    · split
      · exact cons_lt_cons_of (by omega) (by omega) fun same => by omega
      · split <;> exact cons_lt_cons_of (by omega) (by omega) fun same => by omega
  rw [if_neg one, if_neg (fun small : w ≤ 127 => one (by omega))]
  by_cases two : v ≤ 2047
  · rw [if_pos two]
    split
    · refine cons_lt_cons_of (by omega) (by omega) fun _ => ?_
      exact cons_lt_cons_of (by omega) (by omega) fun same => by omega
    · split <;> exact cons_lt_cons_of (by omega) (by omega) fun same => by omega
  rw [if_neg two, if_neg (fun small : w ≤ 2047 => two (by omega))]
  by_cases three : v ≤ 65535
  · rw [if_pos three]
    split
    · refine cons_lt_cons_of (by omega) (by omega) fun _ => ?_
      refine cons_lt_cons_of (by omega) (by omega) fun _ => ?_
      exact cons_lt_cons_of (by omega) (by omega) fun same => by omega
    · exact cons_lt_cons_of (by omega) (by omega) fun same => by omega
  rw [if_neg three, if_neg (fun small : w ≤ 65535 => three (by omega))]
  refine cons_lt_cons_of (by omega) (by omega) fun _ => ?_
  refine cons_lt_cons_of (by omega) (by omega) fun _ => ?_
  refine cons_lt_cons_of (by omega) (by omega) fun _ => ?_
  exact cons_lt_cons_of (by omega) (by omega) fun same => by omega

/-- Encoding keeps the order of character lists: the bytes compare as the characters do. -/
theorem flatMap_utf8EncodeChar_lt {chars others : List Char} (less : chars < others) :
    chars.flatMap String.utf8EncodeChar < others.flatMap String.utf8EncodeChar := by
  induction less with
  | nil => 
    rename_i c later
    rw [List.flatMap_cons, List.flatMap_nil]
    rcases filled : String.utf8EncodeChar c ++ later.flatMap String.utf8EncodeChar with
      _ | ⟨byte, bytes⟩
    · exact absurd (List.append_eq_nil_iff.mp filled).1 String.utf8EncodeChar_ne_nil
    · exact List.nil_lt_cons byte bytes
  | rel less =>
    rw [List.flatMap_cons, List.flatMap_cons]
    exact utf8EncodeChar_append_lt less _ _
  | cons _ ih =>
    rw [List.flatMap_cons, List.flatMap_cons]
    exact List.append_left_lt ih

/-- Texts are in the order of their bytes. -/
theorem encode_lt_encode_iff {first second : String} :
    encode first < encode second ↔ first < second := by
  have grows {first second : String} (less : first < second) : encode first < encode second := by
    rw [← String.ofList_toList (s := first), ← String.ofList_toList (s := second), encode_ofList,
      encode_ofList]
    exact flatMap_utf8EncodeChar_lt (String.lt_iff.mp less)
  refine ⟨fun less => ?_, grows⟩
  rcases lt_trichotomy first second with before | same | after
  · exact before
  · exact absurd (same ▸ less) (List.lt_irrefl _)
  · exact absurd (List.lt_trans less (grows after)) (List.lt_irrefl _)

end MicroDevice.Text
