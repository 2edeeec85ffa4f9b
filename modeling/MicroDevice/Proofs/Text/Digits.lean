import Mathlib.Data.Nat.Digits.Defs
import MicroDevice.Text.Characters

/-! # Digits that were written

The digits of a number have the values they were written for, and a number other than zero
does not begin with a zero.
-/

namespace MicroDevice.Text

/-- A digit has the value that it was written for. -/
theorem hexDigit?_digitChar : ∀ value < 16, hexDigit? (Nat.digitChar value) = some value := by
  decide

/-- Every hexadecimal digit is read back in upper case. -/
theorem hexDigit?_toUpper : ∀ value < 16,
    hexDigit? (Nat.digitChar value).toUpper = some value := by
  decide

theorem hexDigit?_zero : hexDigit? '0' = some 0 := by decide

theorem hexDigit?_one : hexDigit? '1' = some 1 := by decide

theorem isDigit_of_mem_toDigits {value : Nat} {c : Char} (member : c ∈ Nat.toDigits 10 value) :
    c.isDigit = true :=
  Nat.isDigit_of_mem_toDigits (by decide) (by decide) member

/-- The digits of a number are a single zero, or they do not begin with one. -/
theorem toDigits_cases (value : Nat) :
    Nat.toDigits 10 value = ['0'] ∨
      ∃ first later, Nat.toDigits 10 value = first :: later ∧ first ≠ '0' := by
  induction value using Nat.strongRecOn with
  | ind value ih =>
      by_cases small : value < 10
      · rw [Nat.toDigits_of_lt_base small]
        by_cases zero : value = 0
        · subst zero
          exact Or.inl rfl
        · refine Or.inr ⟨Nat.digitChar value, [], rfl, ?_⟩
          rw [ne_eq, Nat.digitChar_eq_zero]
          exact zero
      · have shorter := ih (value / 10) (by omega)
        rw [Nat.toDigits_of_base_le (by decide) (by omega)]
        rcases shorter with zero | ⟨first, later, digits, nonzero⟩
        · -- the leading part is not zero, since the number has two digits
          have leading := congrArg (fun digits => Nat.ofDigitChars 10 digits 0) zero
          simp only [Nat.ofDigitChars_ten_toDigits] at leading
          have : value / 10 = 0 := leading
          omega
        · rw [digits]
          exact Or.inr ⟨first, later ++ [Nat.digitChar (value % 10)], rfl, nonzero⟩

/-- The characters written for a number in any base are digits below that base. -/
theorem exists_digit_of_mem_toDigits {base value : Nat} (wide : 1 < base) {c : Char}
    (member : c ∈ Nat.toDigits base value) : ∃ digit < base, c = Nat.digitChar digit := by
  induction value using Nat.strongRecOn with
  | ind value ih =>
      by_cases small : value < base
      · rw [Nat.toDigits_of_lt_base small] at member
        exact ⟨value, small, List.mem_singleton.mp member⟩
      · rw [Nat.toDigits_of_base_le wide (by omega), List.mem_append,
          List.mem_singleton] at member
        rcases member with leading | last
        · exact ih (value / base) (Nat.div_lt_self (by omega) wide) leading
        · exact ⟨value % base, Nat.mod_lt _ (by omega), last⟩

/-- The digits of a number are read back as the number. -/
theorem hexValue_toDigits (value : Nat) : hexValue (Nat.toDigits 16 value) = value := by
  induction value using Nat.strongRecOn with
  | ind value ih =>
      by_cases small : value < 16
      · rw [Nat.toDigits_of_lt_base small, hexValue, List.foldl_cons, List.foldl_nil,
          hexDigit?_digitChar value small]
        simp
      · have last := hexDigit?_digitChar (value % 16) (Nat.mod_lt _ (by decide))
        have leading := ih (value / 16) (by omega)
        rw [hexValue] at leading ⊢
        rw [Nat.toDigits_of_base_le (by decide) (by omega), List.foldl_append, leading,
          List.foldl_cons, List.foldl_nil, last, Option.getD_some]
        omega

end MicroDevice.Text
