import Mathlib

/-! # Rounding to binary64

A positive number is rounded by shifting its mantissa to 53 bits and keeping two bits that tell
where the number lies between two neighbours (`Tells`). What comes out is off by at most one part
in `2 ^ 53`, unless it is below the normal numbers (`roundWithAccuracy_near`); sums and whole
numbers never are off by more (`round_near`).
-/

namespace MicroDevice.Binary64

open Float.Model Float.Model.UnpackedFloat

/-! ## Shifting a mantissa -/

/-- The amount, in units of the last place, that a mantissa and its two further bits stand for. -/
def Tells (extended : ExtendedMantissa) (amount : ℚ) : Prop :=
  match extended.roundBit, extended.stickyBit with
  | false, false => amount = extended.mantissa
  | false, true => extended.mantissa < amount ∧ amount < extended.mantissa + 1 / 2
  | true, false => amount = extended.mantissa + 1 / 2
  | true, true => extended.mantissa + 1 / 2 < amount ∧ amount < extended.mantissa + 1

/-- Shifting out one bit tells half of the amount. -/
theorem Tells.shiftRightOne {extended : ExtendedMantissa} {amount : ℚ}
    (tells : Tells extended amount) : Tells extended.shiftRightOne (amount / 2) := by
  obtain ⟨mantissa, roundBit, stickyBit⟩ := extended
  have split : (mantissa : ℚ) = 2 * (mantissa / 2 : ℕ) + (mantissa % 2 : ℕ) := by
    exact_mod_cast (Nat.div_add_mod mantissa 2).symm
  rcases Nat.mod_two_eq_zero_or_one mantissa with even | odd
  · rw [even] at split
    cases roundBit <;> cases stickyBit <;>
      simp only [Tells, ExtendedMantissa.shiftRightOne, even, bne_self_eq_false, Bool.or_false,
        Bool.or_true, Nat.cast_zero, add_zero] at tells split ⊢
    · linarith
    all_goals constructor <;> linarith
  · rw [odd] at split
    cases roundBit <;> cases stickyBit <;>
      simp only [Tells, ExtendedMantissa.shiftRightOne, odd, Bool.or_false,
        Bool.or_true, Nat.cast_one] at tells split ⊢
    · change amount / 2 = _
      linarith
    all_goals constructor <;> linarith

/-- Shifting out bits tells the amount divided by as many powers of two. -/
theorem Tells.shiftRight {extended : ExtendedMantissa} {amount : ℚ}
    (tells : Tells extended amount) (count : ℕ) :
    Tells (extended >>> count) (amount / 2 ^ count) := by
  induction count with
  | zero =>
      rw [pow_zero, div_one]
      exact tells
  | succ count ih =>
      rw [pow_succ, ← div_div]
      exact ih.shiftRightOne

/-- The mantissa of a shift is the mantissa divided by the power of two. -/
theorem mantissa_shiftRight (extended : ExtendedMantissa) (count : ℕ) :
    (extended >>> count).mantissa = extended.mantissa / 2 ^ count := by
  induction count with
  | zero => exact (Nat.div_one _).symm
  | succ count ih =>
      rw [pow_succ, ← Nat.div_div_eq_div_mul, ← ih]
      rfl

theorem mantissa_ofMantissaAndAccuracy (mantissa : ℕ) (accuracy : Accuracy) :
    (ExtendedMantissa.ofMantissaAndAccuracy mantissa accuracy).mantissa = mantissa := by
  rcases accuracy with _ | (_ | _ | _) <;> rfl

/-- Rounding adds one to a mantissa or leaves it. -/
theorem mantissa_le_roundedMantissa (extended : ExtendedMantissa) :
    extended.mantissa ≤ extended.roundedMantissa ∧
      extended.roundedMantissa ≤ extended.mantissa + 1 := by
  obtain ⟨mantissa, roundBit, stickyBit⟩ := extended
  cases roundBit <;> cases stickyBit <;>
    simp only [ExtendedMantissa.roundedMantissa, ExtendedMantissa.accuracy,
      Accuracy.roundToNearestEven] <;> omega

theorem Tells.le {extended : ExtendedMantissa} {amount : ℚ} (tells : Tells extended amount) :
    (extended.mantissa : ℚ) ≤ amount := by
  obtain ⟨mantissa, roundBit, stickyBit⟩ := extended
  cases roundBit <;> cases stickyBit <;> simp only [Tells] at tells ⊢ <;> linarith

/-- The rounded mantissa is the nearest one. -/
theorem Tells.near {extended : ExtendedMantissa} {amount : ℚ} (tells : Tells extended amount) :
    |(extended.roundedMantissa : ℚ) - amount| ≤ 1 / 2 := by
  obtain ⟨mantissa, roundBit, stickyBit⟩ := extended
  rw [abs_le]
  cases roundBit <;> cases stickyBit <;>
    simp only [Tells, ExtendedMantissa.roundedMantissa, ExtendedMantissa.accuracy,
      Accuracy.roundToNearestEven] at tells ⊢
  · constructor <;> linarith
  · constructor <;> linarith
  · rcases Nat.mod_two_eq_zero_or_one mantissa with even | odd
    · rw [even]
      constructor <;> push_cast <;> linarith
    · rw [odd]
      constructor <;> push_cast <;> linarith
  · constructor <;> push_cast <;> linarith

/-! ## The place of the last digit -/

/-- The exponent that the digits of a number are rounded to. -/
def lastPlace (mantissa : ℕ) (exponent : ℤ) : ℤ :=
  max (mantissa.log2 + exponent - 52) (-1074)

/-- The exponent a number is rounded to is its last place. -/
theorem targetExponent_eq (mantissa : ℕ) (exponent : ℤ) :
    Format.binary64.targetExponent (totalExponent mantissa exponent) =
      lastPlace mantissa exponent := by
  change max ((mantissa.log2 : ℤ) + 1 + exponent - 53) (-1074) = _
  unfold lastPlace
  omega

/-- Shifting to the target exponent shifts out the bits below the last place, none if there are
none. -/
theorem shiftToTargetExponent_eq {mantissa : ℕ} {exponent : ℤ} (accuracy : Accuracy) {count : ℕ}
    (reached : lastPlace mantissa exponent ≤ exponent + count)
    (exactly : count = 0 ∨ lastPlace mantissa exponent = exponent + count) :
    shiftToTargetExponent Format.binary64 mantissa exponent accuracy =
      (ExtendedMantissa.ofMantissaAndAccuracy mantissa accuracy >>> count, exponent + count) := by
  have shifts : (lastPlace mantissa exponent - exponent).toNat = count := by omega
  rw [shiftToTargetExponent, targetExponent_eq, shiftToExponent, shifts]

theorem log2_lt_of_lt {mantissa count : ℕ} (bounded : mantissa < 2 ^ (count + 1)) :
    mantissa.log2 ≤ count := by
  rcases Nat.eq_zero_or_pos mantissa with rfl | positive
  · exact Nat.zero_le _
  · exact Nat.lt_succ_iff.mp ((Nat.log2_lt positive.ne').mpr bounded)

/-- A shifted mantissa has at most 53 digits. -/
theorem div_lt_of_log2_le {mantissa count : ℕ} (short : mantissa.log2 ≤ 52 + count) :
    mantissa / 2 ^ count < 2 ^ 53 := by
  rw [Nat.div_lt_iff_lt_mul (Nat.two_pow_pos count), ← pow_add]
  exact Nat.lt_log2_self.trans_le (Nat.pow_le_pow_right two_pos (by omega))

/-- A mantissa has all of its 53 digits when it is shifted to the place above the least. -/
theorem le_div_of_log2_eq {mantissa count : ℕ} (long : mantissa.log2 = 52 + count) :
    2 ^ 52 ≤ mantissa / 2 ^ count := by
  have positive : mantissa ≠ 0 := by
    rintro rfl
    rw [Nat.log2_zero] at long
    omega
  rw [Nat.le_div_iff_mul_le (Nat.two_pow_pos count), ← pow_add, ← long]
  exact Nat.log2_self_le positive

/-! ## Numbers that floats stand for -/

/-- The number that a finite float stands for, without its sign. -/
def magnitude : UnpackedFloat → ℚ
  | .finite _ mantissa exponent _ => mantissa * 2 ^ exponent
  | _ => 0

/-- A float that is finite and has the given sign, if only as a zero. -/
def IsReal (sign : Sign) : UnpackedFloat → Prop
  | .finite held _ _ _ => held = sign
  | .zero held => held = sign
  | _ => False

/-- A finite float has 53 digits, the last of them at the least place or above, and the first
is not zero unless the last is at the least place. -/
def Canonical : UnpackedFloat → Prop
  | .finite _ mantissa exponent _ =>
      mantissa < 2 ^ 53 ∧ -1074 ≤ exponent ∧ (2 ^ 52 ≤ mantissa ∨ exponent = -1074)
  | _ => True

/-- The mantissa that rounding leaves may have one digit more than it should; shifting it again
loses nothing. -/
theorem carry (rounded : ℕ) {place : ℤ} (bounded : rounded ≤ 2 ^ 53) (lowest : -1074 ≤ place)
    (full : 2 ^ 52 ≤ rounded ∨ place = -1074) :
    ∃ mantissa exponent, shiftToTargetExponent Format.binary64 rounded place .exact =
        (⟨mantissa, false, false⟩, exponent) ∧
      (mantissa : ℚ) * 2 ^ exponent = rounded * 2 ^ place ∧ mantissa < 2 ^ 53 ∧
      -1074 ≤ exponent ∧ (2 ^ 52 ≤ mantissa ∨ exponent = -1074) := by
  rcases Nat.lt_or_eq_of_le bounded with fits | rfl
  · have short := log2_lt_of_lt fits
    have stays : lastPlace rounded place ≤ place + (0 : ℕ) := by
      unfold lastPlace
      omega
    refine ⟨rounded, place, ?_, rfl, fits, lowest, full⟩
    rw [shiftToTargetExponent_eq .exact stays (.inl rfl), Nat.cast_zero, add_zero]
    rfl
  · have moves : lastPlace (2 ^ 53) place = place + (1 : ℕ) := by
      rw [lastPlace, Nat.log2_two_pow]
      omega
    refine ⟨2 ^ 52, place + 1, ?_, ?_, by norm_num, by omega, .inl le_rfl⟩
    · rw [shiftToTargetExponent_eq .exact moves.le (.inr moves)]
      rfl
    · rw [zpow_add_one₀ two_ne_zero]
      push_cast
      ring

/-- Half a unit of the last place is at most one part in `2 ^ 53` of a number that has all of its
digits. -/
theorem half_place_le {number : ℚ} {place : ℤ} {floor : ℕ} (full : 2 ^ 52 ≤ floor)
    (least : (floor : ℚ) ≤ number / 2 ^ place) : (2 : ℚ) ^ place / 2 ≤ number / 2 ^ 53 := by
  have positive : (0 : ℚ) < 2 ^ place := zpow_pos two_pos place
  have digits : (2 : ℚ) ^ 52 ≤ floor := by exact_mod_cast full
  have reaches := (le_div_iff₀ positive).mp (digits.trans least)
  linarith

/-- The first shift leaves 53 digits and tells of the rest, unless the last place is the least.
Nothing is left over there if the digits went no further. -/
theorem shiftToTargetExponent_tells {mantissa : ℕ} {exponent : ℤ} {accuracy : Accuracy}
    {number : ℚ} (long : 52 ≤ mantissa.log2 ∨ exponent ≤ -1074)
    (tells : Tells (ExtendedMantissa.ofMantissaAndAccuracy mantissa accuracy)
      (number / 2 ^ exponent)) :
    ∃ first place,
      shiftToTargetExponent Format.binary64 mantissa exponent accuracy = (first, place) ∧
        Tells first (number / 2 ^ place) ∧ first.mantissa < 2 ^ 53 ∧ -1074 ≤ place ∧
        (2 ^ 52 ≤ first.mantissa ∨ place = -1074 ∧ (accuracy = .exact → -1074 ≤ exponent →
          (first.roundedMantissa : ℚ) = number / 2 ^ place)) := by
  have rises : exponent ≤ lastPlace mantissa exponent := by
    unfold lastPlace
    omega
  obtain ⟨count, placed⟩ := Int.le.dest rises
  have floor : (ExtendedMantissa.ofMantissaAndAccuracy mantissa accuracy >>> count).mantissa =
      mantissa / 2 ^ count := by
    rw [mantissa_shiftRight, mantissa_ofMantissaAndAccuracy]
  refine ⟨_, _, shiftToTargetExponent_eq accuracy placed.ge (.inr placed.symm), ?_, ?_, ?_, ?_⟩
  · rw [zpow_add₀ two_ne_zero, zpow_natCast, ← div_div]
    exact tells.shiftRight count
  · rw [floor]
    apply div_lt_of_log2_le
    unfold lastPlace at placed
    omega
  · rw [placed]
    exact le_max_right _ _
  · by_cases lowest : exponent + count = -1074
    · refine .inr ⟨lowest, fun isExact above => ?_⟩
      have unmoved : count = 0 := by omega
      subst isExact unmoved
      rw [Nat.cast_zero, add_zero]
      exact tells.symm
    · left
      rw [floor]
      apply le_div_of_log2_eq
      unfold lastPlace at placed
      omega

/-- Rounding a number whose mantissa has 53 digits or more, or loses digits at the least place
alone. In the latter case more than one part in `2 ^ 53` may be lost, but then what comes out is
below the normal numbers. -/
theorem roundWithAccuracy_near (sign : Sign) {mantissa : ℕ} {exponent : ℤ} {accuracy : Accuracy}
    {number : ℚ} (long : 52 ≤ mantissa.log2 ∨ exponent ≤ -1074)
    (tells : Tells (ExtendedMantissa.ofMantissaAndAccuracy mantissa accuracy)
      (number / 2 ^ exponent)) :
    let rounded := roundWithAccuracy Format.binary64 sign mantissa exponent accuracy
    IsReal sign rounded ∧ Canonical rounded ∧
      (|magnitude rounded - number| ≤ number / 2 ^ 53 ∨
        magnitude rounded ≤ 2 ^ (-1021 : ℤ) ∧ ¬(accuracy = .exact ∧ -1074 ≤ exponent)) := by
  obtain ⟨first, place, shifted, told, short, lowest, full⟩ :=
    shiftToTargetExponent_tells long tells
  obtain ⟨least, most⟩ := mantissa_le_roundedMantissa first
  obtain ⟨digits, last, carried, same, bounded, above, normal⟩ :=
    carry first.roundedMantissa (by omega) lowest (full.imp least.trans' And.left)
  have unit : (0 : ℚ) < 2 ^ place := zpow_pos two_pos place
  have near : |(first.roundedMantissa : ℚ) * 2 ^ place - number| ≤ 2 ^ place / 2 := by
    have scaled := mul_le_mul_of_nonneg_right told.near unit.le
    rwa [← abs_of_pos unit, ← abs_mul, abs_of_pos unit, sub_mul, div_mul_cancel₀ _ unit.ne',
      one_div_mul_eq_div] at scaled
  have close : |(digits : ℚ) * 2 ^ last - number| ≤ number / 2 ^ 53 ∨
      (digits : ℚ) * 2 ^ last ≤ 2 ^ (-1021 : ℤ) ∧ ¬(accuracy = .exact ∧ -1074 ≤ exponent) := by
    rw [same]
    rcases full with full | ⟨rfl, kept⟩
    · exact .inl (near.trans (half_place_le full told.le))
    · by_cases isExact : accuracy = .exact ∧ -1074 ≤ exponent
      · left
        have filled : 0 ≤ number := by
          have positive := (Nat.cast_nonneg _).trans told.le
          rwa [le_div_iff₀ unit, zero_mul] at positive
        rw [kept isExact.1 isExact.2, div_mul_cancel₀ _ unit.ne', sub_self, abs_zero]
        exact div_nonneg filled (by positivity)
      · refine .inr ⟨?_, isExact⟩
        have rounded_le : (first.roundedMantissa : ℚ) ≤ 2 ^ (53 : ℤ) := by
          exact_mod_cast most.trans short
        calc (first.roundedMantissa : ℚ) * 2 ^ (-1074 : ℤ)
            ≤ 2 ^ (53 : ℤ) * 2 ^ (-1074 : ℤ) := mul_le_mul_of_nonneg_right rounded_le unit.le
          _ = 2 ^ (-1021 : ℤ) := (zpow_add₀ two_ne_zero _ _).symm
  dsimp only
  rw [roundWithAccuracy, shifted]
  dsimp only
  rw [carried]
  dsimp only
  split
  · rename_i empty
    rw [empty, Nat.cast_zero, zero_mul] at close
    exact ⟨rfl, trivial, close⟩
  · exact ⟨rfl, ⟨bounded, above, normal⟩, close⟩

/-- Decreasing the exponent of a number leaves it as it is. -/
theorem decreaseExponent_eq (mantissa : ℕ) (exponent target : ℤ) :
    ∃ count : ℕ, decreaseExponent mantissa exponent target =
        (mantissa * 2 ^ count, exponent - count) ∧ exponent - count = min exponent target ∧
      ((mantissa * 2 ^ count : ℕ) : ℚ) * 2 ^ (exponent - count) = mantissa * 2 ^ exponent := by
  refine ⟨(exponent - target).toNat, ?_, by omega, ?_⟩
  · rw [decreaseExponent, Nat.shiftLeft_eq]
  · rw [zpow_sub₀ two_ne_zero, zpow_natCast, Nat.cast_mul, Nat.cast_pow, Nat.cast_ofNat]
    field_simp

theorem log2_mul_two_pow {mantissa : ℕ} (positive : 0 < mantissa) (count : ℕ) :
    (mantissa * 2 ^ count).log2 = mantissa.log2 + count := by
  rw [Nat.log2_eq_iff (Nat.mul_pos positive (Nat.two_pow_pos count)).ne', pow_add,
    Nat.add_right_comm, pow_add _ (mantissa.log2 + 1)]
  exact ⟨Nat.mul_le_mul_right _ (Nat.log2_self_le positive.ne'),
    Nat.mul_lt_mul_of_pos_right Nat.lt_log2_self (Nat.two_pow_pos count)⟩

/-- A positive number whose digits end at the least place or above is never off by more than one
part in `2 ^ 53`. -/
theorem round_near (sign : Sign) {mantissa : ℕ} {exponent : ℤ} (positive : 0 < mantissa)
    (above : -1074 ≤ exponent) :
    let rounded := UnpackedFloat.round Format.binary64 sign mantissa exponent
    IsReal sign rounded ∧ Canonical rounded ∧
      |magnitude rounded - mantissa * 2 ^ exponent| ≤ mantissa * 2 ^ exponent / 2 ^ 53 := by
  obtain ⟨count, decreased, lowered, same⟩ :=
    decreaseExponent_eq mantissa exponent (lastPlace mantissa exponent)
  have long : 52 ≤ (mantissa * 2 ^ count).log2 ∨ exponent - count ≤ -1074 := by
    rw [log2_mul_two_pow positive]
    unfold lastPlace at lowered
    omega
  have tells : Tells (ExtendedMantissa.ofMantissaAndAccuracy (mantissa * 2 ^ count) .exact)
      (mantissa * 2 ^ exponent / 2 ^ (exponent - count)) := by
    rw [← same]
    exact mul_div_cancel_right₀ _ (zpow_pos two_pos _).ne'
  have near := roundWithAccuracy_near sign long tells
  have stays : -1074 ≤ exponent - count := by
    unfold lastPlace at lowered
    omega
  dsimp only
  rw [UnpackedFloat.round, targetExponent_eq, decreased]
  exact ⟨near.1, near.2.1, near.2.2.resolve_right fun lost => lost.2 ⟨rfl, stays⟩⟩

end MicroDevice.Binary64
