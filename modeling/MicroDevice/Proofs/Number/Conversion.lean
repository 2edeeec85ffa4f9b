import Mathlib.Data.Nat.Cast.Order.Field
import MicroDevice.Proofs.Number.Arithmetic

/-! # Words and floats

A word becomes a float that is greater by one part in `2 ^ 53` at most (`toFloat_atMost`), and a
float becomes a word that is no greater (`toNat_toUInt64_le`). Only positive floats become words
other than zero, and a product or a quotient of that kind was made from positive floats.
-/

namespace MicroDevice.Binary64

open Float.Model Float.Model.UnpackedFloat

/-- From one upwards the ceiling of a number lies one part in `2 ^ 53` above it. -/
theorem ceiling_of_one_le {number : ℚ} (one_le : 1 ≤ number) :
    ceiling number = number + number / 2 ^ 53 := by
  apply max_eq_left
  linarith [tiny_lt]

/-- A word converted to a float gains one part in `2 ^ 53` at most. -/
theorem toFloat_atMost (word : UInt64) :
    AtMost word.toFloat (word.toNat + word.toNat / 2 ^ 53) := by
  have unpacked : word.toFloat.toModel.unpack = (Float.Model.pack
      (UnpackedFloat.normalize Format.binary64 (word.toNat : ℤ) 0 .positive)).unpack := rfl
  rcases Nat.eq_zero_or_pos word.toNat with zero | positive
  · rw [zero] at unpacked
    exact atMost_of_zero _ unpacked
  · have filled : (0 : ℤ) < word.toNat := by exact_mod_cast positive
    have one_le : (1 : ℚ) ≤ word.toNat := by exact_mod_cast positive
    have small : (word.toNat : ℚ) ≤ 2 ^ (1000 : ℤ) := by
      have below : (word.toNat : ℚ) ≤ 2 ^ (64 : ℤ) := by exact_mod_cast word.toNat_lt.le
      exact below.trans (zpow_le_zpow_right₀ one_le_two (by norm_num))
    obtain ⟨real, rounded, near⟩ :=
      round_near .positive positive (by norm_num : -1074 ≤ (0 : ℤ))
    rw [zpow_zero, mul_one] at near
    rw [UnpackedFloat.normalize, Int.compare_eq_gt.mpr filled, Int.toNat_natCast] at unpacked
    rw [← ceiling_of_one_le one_le]
    exact atMost_of_rounded unpacked small real rounded (.inl near)

/-- The whole part of a number does not exceed it. -/
theorem roundToInt_positive (mantissa : ℕ) (place : ℤ) :
    ∃ whole : ℕ, roundToInt .positive mantissa place = whole ∧
      (whole : ℚ) ≤ mantissa * 2 ^ place := by
  obtain ⟨count, decreased, lowered, same⟩ := decreaseExponent_eq mantissa place 0
  obtain ⟨cut, fraction⟩ : ∃ cut : ℕ, place - count = -cut :=
    ⟨(-(place - count)).toNat, by omega⟩
  rw [fraction] at decreased same
  refine ⟨mantissa * 2 ^ count / 2 ^ cut, ?_, ?_⟩
  · have shifts : (0 - -(cut : ℤ)).toNat = cut := by omega
    simp only [roundToInt, decreased, shiftToExponent, mantissa_shiftRight,
      mantissa_ofMantissaAndAccuracy, shifts]
    rfl
  · rw [← same, zpow_neg, zpow_natCast, ← div_eq_mul_inv]
    have quotient : ((mantissa * 2 ^ count / 2 ^ cut : ℕ) : ℚ) ≤
        (mantissa * 2 ^ count : ℕ) / (2 ^ cut : ℕ) := Nat.cast_div_le
    rwa [Nat.cast_pow 2, Nat.cast_ofNat] at quotient

theorem toUInt64_eq (float : Float) : float.toUInt64 = float.toModel.unpack.toUInt64 := rfl

/-- Clamping a count to a word never enlarges it. -/
theorem toNat_ofNatClamp_le (count : ℕ) : (UInt64.ofNatClamp count).toNat ≤ count := by
  unfold UInt64.ofNatClamp
  split
  · exact le_rfl
  · rename_i great
    have greatest : (UInt64.ofNatLT (UInt64.size - 1) (by decide)).toNat = UInt64.size - 1 := rfl
    omega

/-- A float becomes a word that is no greater. -/
theorem toNat_toUInt64_le {float : Float} {bound : ℚ} (atMost : AtMost float bound)
    (positive : 0 ≤ bound) : (float.toUInt64.toNat : ℚ) ≤ bound := by
  rw [toUInt64_eq]
  rcases atMost with ⟨sign, zero⟩ | ⟨number, within, mantissa, place, filled, unpacked, rfl⟩
  · rw [zero]
    exact positive
  · obtain ⟨whole, rounded, le⟩ := roundToInt_positive mantissa place
    rw [unpacked, UnpackedFloat.toUInt64, UnpackedFloat.toInt, rounded, Int.toNat_natCast]
    have clamped : ((UInt64.ofNatClamp whole).toNat : ℚ) ≤ whole := by
      exact_mod_cast toNat_ofNatClamp_le whole
    exact clamped.trans (le.trans within)

/-! ## Positive floats -/

/-- A float is positive, if perhaps infinite. -/
def IsPositive : UnpackedFloat → Prop
  | .finite .positive _ _ _ => True
  | .infinity .positive => True
  | _ => False

/-- The number that a finite float stands for, without its sign. -/
def amount (float : Float) : ℚ :=
  magnitude float.toModel.unpack

/-- A positive finite float stands for its amount. -/
theorem amounts_of_isPositive {float : Float} (positive : IsPositive float.toModel.unpack)
    (finite : float.isFinite = true) : Amounts float (amount float) := by
  rw [isFinite_eq] at finite
  match unpacked : float.toModel.unpack with
  | .finite .positive mantissa place filled =>
      refine ⟨mantissa, place, filled, unpacked, ?_⟩
      rw [amount, unpacked, magnitude]
  | .finite .negative _ _ _ | .zero _ | .notANumber =>
      rw [unpacked] at positive
      cases positive
  | .infinity _ =>
      rw [unpacked] at finite
      cases finite

/-- Only positive floats become words other than zero. -/
theorem isPositive_of_toUInt64 {float : Float} (notZero : float.toUInt64 ≠ 0) :
    IsPositive float.toModel.unpack := by
  rw [toUInt64_eq] at notZero
  match unpacked : float.toModel.unpack with
  | .finite .positive _ _ _ | .infinity .positive => trivial
  | .zero _ | .infinity .negative | .notANumber =>
      rw [unpacked] at notZero
      exact absurd rfl notZero
  | .finite .negative mantissa place filled =>
      rw [unpacked] at notZero
      exfalso
      apply notZero
      have negative : (roundToInt .negative mantissa place).toNat = 0 := by
        simp only [roundToInt, Sign.apply]
        omega
      rw [UnpackedFloat.toUInt64, UnpackedFloat.toInt, negative]
      rfl

theorem unpack_zero : (0.0 : Float).toModel.unpack = .zero .positive := rfl

/-- A float above zero is positive. -/
theorem isPositive_of_lt {float : Float} (positive : 0.0 < float) :
    IsPositive float.toModel.unpack := by
  have unfolded : UnpackedFloat.lt (0.0 : Float).toModel.unpack float.toModel.unpack = true :=
    of_decide_eq_true positive
  rw [unpack_zero] at unfolded
  match unpacked : float.toModel.unpack with
  | .finite .positive _ _ _ | .infinity .positive => trivial
  | .finite .negative _ _ _ | .zero _ | .infinity .negative | .notANumber =>
      rw [unpacked] at unfolded
      cases unfolded

/-- What is positive in its bits was positive. -/
theorem isPositive_of_pack {float : UnpackedFloat} (canonical : Canonical float)
    (positive : IsPositive (Float.Model.pack float).unpack) : IsPositive float := by
  rcases unpack_pack canonical with same | ⟨sign, _, _, _, rfl, -, infinite⟩
  · rwa [same] at positive
  · rw [infinite] at positive
    cases sign
    · cases positive
    · trivial

/-- A negative real is not positive. -/
theorem not_isPositive_of_negative {float : UnpackedFloat} (real : IsReal .negative float) :
    ¬IsPositive float := by
  intro positive
  match float with
  | .finite .negative _ _ _ | .zero _ | .infinity _ | .notANumber => trivial
  | .finite .positive _ _ _ => cases real

/-- A positive product with a finite factor that is not negative is one of positive floats. -/
theorem isPositive_of_mul {first second : Float} {bound : ℚ} (atMost : AtMost second bound)
    (positive : IsPositive (first * second).toModel.unpack) :
    IsPositive first.toModel.unpack ∧ ∃ number ≤ bound, Amounts second number := by
  have canonical := canonical_float first
  rw [unpack_mul] at positive
  rcases atMost with ⟨sign, zero⟩ | ⟨number, within, amounts⟩
  · rw [zero] at positive
    match unpacked : first.toModel.unpack with
    | .finite _ _ _ _ | .zero _ | .infinity _ | .notANumber =>
        rw [unpacked] at positive
        exact False.elim (isPositive_of_pack (by trivial) positive)
  · refine ⟨?_, number, within, amounts⟩
    have alsoCanonical := canonical_float second
    obtain ⟨digits, last, filled, unpacked, -⟩ := amounts
    rw [unpacked] at alsoCanonical positive
    match factor : first.toModel.unpack with
    | .finite .positive _ _ _ | .infinity .positive => trivial
    | .zero _ | .infinity .negative | .notANumber =>
        rw [factor] at positive
        exact False.elim (isPositive_of_pack (by trivial) positive)
    | .finite .negative mantissa place _ =>
        rw [factor] at positive canonical
        obtain ⟨real, rounded, -⟩ := mul_finite .negative .positive canonical alsoCanonical
        exact absurd (isPositive_of_pack rounded positive) (not_isPositive_of_negative real)

/-- A positive quotient by a positive float is one of a positive float by a finite one. -/
theorem isPositive_of_div {first second : Float} (divisor : IsPositive second.toModel.unpack)
    (positive : IsPositive (first / second).toModel.unpack) :
    IsPositive first.toModel.unpack ∧ ∃ number, Amounts second number := by
  rw [unpack_div] at positive
  match unpacked : second.toModel.unpack with
  | .infinity _ =>
      rw [unpacked] at positive
      match factor : first.toModel.unpack with
      | .finite _ _ _ _ | .zero _ | .infinity _ | .notANumber =>
          rw [factor] at positive
          exact False.elim (isPositive_of_pack (by trivial) positive)
  | .finite .negative _ _ _ | .zero _ | .notANumber =>
      rw [unpacked] at divisor
      cases divisor
  | .finite .positive digits last filled =>
      refine ⟨?_, _, digits, last, filled, unpacked, rfl⟩
      rw [unpacked] at positive
      match dividend : first.toModel.unpack with
      | .finite .positive _ _ _ | .infinity .positive => trivial
      | .zero _ | .infinity .negative | .notANumber =>
          rw [dividend] at positive
          exact False.elim (isPositive_of_pack (by trivial) positive)
      | .finite .negative mantissa place above =>
          rw [dividend] at positive
          obtain ⟨real, rounded, -⟩ := div_finite .negative .positive place last above filled
          exact absurd (isPositive_of_pack rounded positive) (not_isPositive_of_negative real)

end MicroDevice.Binary64
