import MicroDevice.Proofs.Number.Packing

/-! # Sums, products and quotients of floats

What the operations on positive floats come to, up to one part in `2 ^ 53`: sums from below
(`add_amounts`), products and quotients from above (`mul_atMost`, `div_amounts`), where results
below the normal numbers are bounded by these alone. A sum is finite only if both of its parts
are.
-/

namespace MicroDevice.Binary64

open Float.Model Float.Model.UnpackedFloat

/-- A float stands for a positive number. -/
def Amounts (float : Float) (number : ℚ) : Prop :=
  ∃ mantissa exponent positive,
    float.toModel.unpack = .finite .positive mantissa exponent positive ∧
      (mantissa : ℚ) * 2 ^ exponent = number

/-- A float is a zero or stands for a positive number within a bound. -/
def AtMost (float : Float) (bound : ℚ) : Prop :=
  (∃ sign, float.toModel.unpack = .zero sign) ∨ ∃ number ≤ bound, Amounts float number

/-- The number that a float stands for is positive. -/
theorem Amounts.pos {float : Float} {number : ℚ} (amounts : Amounts float number) :
    0 < number := by
  obtain ⟨mantissa, exponent, positive, -, rfl⟩ := amounts
  have filled : (0 : ℚ) < mantissa := by exact_mod_cast positive
  positivity

theorem Amounts.isFinite {float : Float} {number : ℚ} (amounts : Amounts float number) :
    float.isFinite = true := by
  obtain ⟨_, _, _, unpacked, -⟩ := amounts
  rw [Float.isFinite, Float.Model.isFinite, unpacked]
  rfl

/-- What becomes of a rounded positive number in its bits. -/
theorem unpack_pack_real {float : UnpackedFloat} (canonical : Canonical float)
    (real : IsReal .positive float) (notZero : magnitude float ≠ 0) :
    (∃ mantissa exponent positive, (Float.Model.pack float).unpack =
        .finite .positive mantissa exponent positive ∧
        (mantissa : ℚ) * 2 ^ exponent = magnitude float) ∨
      (Float.Model.pack float).unpack = .infinity .positive := by
  rcases unpack_pack canonical with same | ⟨sign, mantissa, exponent, positive, rfl, -, infinite⟩
  · rw [same]
    cases float with
    | finite sign mantissa exponent positive =>
        obtain rfl : sign = .positive := real
        exact .inl ⟨mantissa, exponent, positive, rfl, rfl⟩
    | zero sign => exact absurd rfl notZero
    | infinity sign => exact real.elim
    | notANumber => exact real.elim
  · obtain rfl : sign = .positive := real
    exact .inr infinite

theorem canonical_float (float : Float) : Canonical float.toModel.unpack :=
  canonical_unpack _

/-- The sum of two floats unpacks to the packed sum of their unpacked forms. -/
theorem unpack_add (first second : Float) : (first + second).toModel.unpack =
    (Float.Model.pack (UnpackedFloat.add Format.binary64 first.toModel.unpack
      second.toModel.unpack)).unpack := rfl

theorem unpack_mul (first second : Float) : (first * second).toModel.unpack =
    (Float.Model.pack (UnpackedFloat.mul Format.binary64 first.toModel.unpack
      second.toModel.unpack)).unpack := rfl

theorem unpack_div (first second : Float) : (first / second).toModel.unpack =
    (Float.Model.pack (UnpackedFloat.div Format.binary64 first.toModel.unpack
      second.toModel.unpack)).unpack := rfl

theorem isFinite_eq (float : Float) : float.isFinite = float.toModel.unpack.isFinite := rfl

/-! ## Sums -/

/-- The sum of two finite floats is the rounded sum of their numbers. -/
theorem add_finite {first second : ℕ} {place other : ℤ} (positive : 0 < first)
    (alsoPositive : 0 < second) :
    ∃ sum : ℕ, 0 < sum ∧ (sum : ℚ) * 2 ^ min place other = first * 2 ^ place + second * 2 ^ other ∧
      UnpackedFloat.add Format.binary64 (.finite .positive first place positive)
        (.finite .positive second other alsoPositive) =
          UnpackedFloat.round Format.binary64 .positive sum (min place other) := by
  obtain ⟨count, decreased, lowered, same⟩ :=
    decreaseExponent_eq first place (min place other)
  obtain ⟨times, alsoDecreased, alsoLowered, alsoSame⟩ :=
    decreaseExponent_eq second other (min place other)
  rw [show place - count = min place other by omega] at same
  rw [show other - times = min place other by omega] at alsoSame
  refine ⟨first * 2 ^ count + second * 2 ^ times, by positivity, ?_, ?_⟩
  · rw [Nat.cast_add, add_mul, same, alsoSame]
  · simp only [UnpackedFloat.add, decreased, alsoDecreased]
    have filled : 0 < Sign.apply .positive (first * 2 ^ count : ℕ) +
        Sign.apply .positive (second * 2 ^ times : ℕ) := by
      simp only [Sign.apply]
      positivity
    rw [UnpackedFloat.normalize, Int.compare_eq_gt.mpr filled]
    simp only [Sign.apply]
    norm_cast

/-- The sum of two positive floats is too great for a float, or it falls short by one part in
`2 ^ 53` at most. -/
theorem add_amounts {first second : Float} {number other : ℚ} (amounts : Amounts first number)
    (alsoAmounts : Amounts second other) (finite : (first + second).isFinite = true) :
    ∃ sum, Amounts (first + second) sum ∧
      (number + other) - (number + other) / 2 ^ 53 ≤ sum := by
  have canonical := canonical_float first
  have alsoCanonical := canonical_float second
  have total : 0 < number + other := add_pos amounts.pos alsoAmounts.pos
  obtain ⟨mantissa, place, positive, unpacked, rfl⟩ := amounts
  obtain ⟨digits, last, alsoPositive, alsoUnpacked, rfl⟩ := alsoAmounts
  rw [unpacked] at canonical
  rw [alsoUnpacked] at alsoCanonical
  obtain ⟨sum, filled, same, added⟩ := add_finite positive alsoPositive
  have above : -1074 ≤ min place last := le_min canonical.2.1 alsoCanonical.2.1
  obtain ⟨real, rounded, near⟩ := round_near .positive filled above
  rw [same] at near
  have close := (abs_le.mp near).1
  have notZero :
      magnitude (UnpackedFloat.round Format.binary64 .positive sum (min place last)) ≠ 0 := by
    intro zero
    rw [zero] at close
    linarith
  rw [isFinite_eq, unpack_add, unpacked, alsoUnpacked, added] at finite
  rcases unpack_pack_real rounded real notZero with ⟨_, _, filled, held, value⟩ | infinite
  · refine ⟨_, ⟨_, _, filled, ?_, value⟩, by linarith⟩
    rw [unpack_add, unpacked, alsoUnpacked, added, held]
  · rw [infinite] at finite
    cases finite

/-- A float that is added to zero stays, or it was not finite. -/
theorem zero_add_amounts {zero float : Float} {sign : Sign} {number : ℚ}
    (isZero : zero.toModel.unpack = .zero sign) (amounts : Amounts float number)
    (finite : (zero + float).isFinite = true) : Amounts (zero + float) number := by
  have canonical := canonical_float float
  obtain ⟨mantissa, place, positive, unpacked, rfl⟩ := amounts
  rw [unpacked] at canonical
  have added : UnpackedFloat.add Format.binary64 (.zero sign)
      (.finite .positive mantissa place positive) = .finite .positive mantissa place positive := rfl
  rw [isFinite_eq, unpack_add, isZero, unpacked, added] at finite
  refine ⟨mantissa, place, positive, ?_, rfl⟩
  rw [unpack_add, isZero, unpacked, added]
  rcases unpack_pack canonical with same | ⟨_, _, _, _, -, -, infinite⟩
  · exact same
  · rw [infinite] at finite
    cases finite

/-- What is finite in its bits was finite. -/
theorem isFinite_of_pack {float : UnpackedFloat}
    (finite : (Float.Model.pack float).unpack.isFinite = true) : float.isFinite = true := by
  cases float with
  | infinity sign =>
      change (UnpackedFloat.unpack _ (packedInfinity Format.binary64 sign)).isFinite = true at finite
      rw [unpack_packedInfinity] at finite
      exact finite
  | notANumber => exact absurd finite (by decide)
  | zero sign => rfl
  | finite sign mantissa place positive => rfl

/-- A sum is finite only if both of its parts are. -/
theorem isFinite_of_add {first second : Float} (finite : (first + second).isFinite = true) :
    first.isFinite = true ∧ second.isFinite = true := by
  rw [isFinite_eq, unpack_add] at finite
  have sum := isFinite_of_pack finite
  rw [isFinite_eq, isFinite_eq]
  cases unpacked : first.toModel.unpack <;> cases alsoUnpacked : second.toModel.unpack <;>
    rw [unpacked, alsoUnpacked] at sum
  case zero.zero | zero.finite | finite.zero | finite.finite => exact ⟨rfl, rfl⟩
  case infinity.infinity =>
    rw [UnpackedFloat.add] at sum
    split at sum <;> cases sum
  all_goals exact absurd sum Bool.false_ne_true

/-! ## Products and quotients -/

/-- What a product or a quotient of a given number may come to at most. -/
def ceiling (number : ℚ) : ℚ :=
  max (number + number / 2 ^ 53) (2 ^ (-1021 : ℤ))

theorem tiny_lt : (2 : ℚ) ^ (-1021 : ℤ) < 1 / 2 ^ 100 := by
  calc (2 : ℚ) ^ (-1021 : ℤ) < 2 ^ (-100 : ℤ) := zpow_lt_zpow_right₀ one_lt_two (by norm_num)
    _ = 1 / 2 ^ 100 := by norm_num

theorem ceiling_pos (number : ℚ) : 0 < ceiling number :=
  lt_max_of_lt_right (zpow_pos two_pos _)

theorem ceiling_lt {number : ℚ} (bounded : number ≤ 2 ^ (1000 : ℤ)) :
    ceiling number < 2 ^ (1023 : ℤ) := by
  apply max_lt
  · have doubled : number + number / 2 ^ 53 ≤ 2 ^ (1000 : ℤ) * 2 ^ (1 : ℤ) := by
      have fraction : number / 2 ^ 53 ≤ 2 ^ (1000 : ℤ) / 1 := by
        apply div_le_div₀ (by positivity) bounded one_pos (by norm_num)
      rw [div_one] at fraction
      rw [zpow_one, mul_two]
      exact add_le_add bounded fraction
    rw [← zpow_add₀ two_ne_zero] at doubled
    exact doubled.trans_lt (zpow_lt_zpow_right₀ one_lt_two (by norm_num))
  · exact zpow_lt_zpow_right₀ one_lt_two (by norm_num)

theorem ceiling_mono {number other : ℚ} (le : number ≤ other) : ceiling number ≤ ceiling other := by
  apply max_le_max _ le_rfl
  linarith

/-- A float that was rounded is at most what its number may come to. -/
theorem atMost_of_rounded {float : Float} {rounded : UnpackedFloat} {number : ℚ}
    (unpacked : float.toModel.unpack = (Float.Model.pack rounded).unpack)
    (bounded : number ≤ 2 ^ (1000 : ℤ)) (real : IsReal .positive rounded)
    (canonical : Canonical rounded)
    (near : |magnitude rounded - number| ≤ number / 2 ^ 53 ∨
      magnitude rounded ≤ 2 ^ (-1021 : ℤ)) :
    AtMost float (ceiling number) := by
  have within : magnitude rounded ≤ ceiling number := by
    rcases near with close | small
    · apply le_max_of_le_left
      have above := (abs_le.mp close).2
      linarith
    · exact le_max_of_le_right small
  rw [unpack_pack_of_lt canonical (within.trans_lt (ceiling_lt bounded))] at unpacked
  cases rounded with
  | zero sign => exact .inl ⟨sign, unpacked⟩
  | finite sign mantissa place positive =>
      obtain rfl : sign = .positive := real
      exact .inr ⟨_, within, mantissa, place, positive, unpacked, rfl⟩
  | infinity sign => exact real.elim
  | notANumber => exact real.elim

/-- A float that is zero is at most every bound. -/
theorem atMost_of_zero {float : Float} {sign : Sign} (bound : ℚ)
    (unpacked : float.toModel.unpack = (Float.Model.pack (.zero sign)).unpack) :
    AtMost float bound := by
  refine .inl ⟨sign, ?_⟩
  rw [unpacked]
  cases sign <;> rfl

theorem AtMost.mono {float : Float} {bound wider : ℚ} (atMost : AtMost float bound)
    (le : bound ≤ wider) : AtMost float wider := by
  rcases atMost with zero | ⟨number, within, amounts⟩
  · exact .inl zero
  · exact .inr ⟨number, within.trans le, amounts⟩

/-- The product of two floats in canonical form has digits enough to be rounded. -/
theorem long_mul {first second : ℕ} {place other : ℤ} (positive : 0 < first)
    (alsoPositive : 0 < second) (full : 2 ^ 52 ≤ first ∨ place = -1074)
    (alsoFull : 2 ^ 52 ≤ second ∨ other = -1074) :
    52 ≤ (first * second).log2 ∨ place + other ≤ -1074 := by
  rcases full with full | rfl
  · left
    apply (Nat.le_log2 (Nat.mul_pos positive alsoPositive).ne').mpr
    exact full.trans (Nat.le_mul_of_pos_right first alsoPositive)
  · rcases alsoFull with full | rfl
    · left
      apply (Nat.le_log2 (Nat.mul_pos positive alsoPositive).ne').mpr
      exact full.trans (Nat.le_mul_of_pos_left second positive)
    · right
      norm_num

/-- The product of two finite floats is the rounded product of their numbers. -/
theorem mul_finite (sign other : Sign) {first second : ℕ} {place last : ℤ} {positive : 0 < first}
    {alsoPositive : 0 < second} (canonical : Canonical (.finite sign first place positive))
    (alsoCanonical : Canonical (.finite other second last alsoPositive)) :
    let product := UnpackedFloat.mul Format.binary64 (.finite sign first place positive)
      (.finite other second last alsoPositive)
    let number : ℚ := first * 2 ^ place * (second * 2 ^ last)
    IsReal (sign * other) product ∧ Canonical product ∧
      (|magnitude product - number| ≤ number / 2 ^ 53 ∨
        magnitude product ≤ 2 ^ (-1021 : ℤ)) := by
  intro product number
  have long := long_mul positive alsoPositive canonical.2.2 alsoCanonical.2.2
  have tells : Tells (ExtendedMantissa.ofMantissaAndAccuracy (first * second) .exact)
      (number / 2 ^ (place + last)) := by
    change _ = ((first * second : ℕ) : ℚ)
    rw [zpow_add₀ two_ne_zero, Nat.cast_mul]
    unfold number
    field_simp
  obtain ⟨real, rounded, near⟩ := roundWithAccuracy_near (sign * other) long tells
  exact ⟨real, rounded, near.imp_right And.left⟩

/-- The product of two floats comes to the ceiling of the exact product at most. -/
theorem mul_amounts {first second : Float} {number other : ℚ} (amounts : Amounts first number)
    (alsoAmounts : Amounts second other) (bounded : number * other ≤ 2 ^ (1000 : ℤ)) :
    AtMost (first * second) (ceiling (number * other)) := by
  have canonical := canonical_float first
  have alsoCanonical := canonical_float second
  obtain ⟨mantissa, place, positive, unpacked, rfl⟩ := amounts
  obtain ⟨digits, last, alsoPositive, alsoUnpacked, rfl⟩ := alsoAmounts
  rw [unpacked] at canonical
  rw [alsoUnpacked] at alsoCanonical
  obtain ⟨real, rounded, near⟩ := mul_finite .positive .positive canonical alsoCanonical
  refine atMost_of_rounded ?_ bounded real rounded near
  rw [unpack_mul, unpacked, alsoUnpacked]

/-- The product of two bounded floats comes to the ceiling of the product of their bounds at
most. -/
theorem mul_atMost {first second : Float} {bound other : ℚ} (atMost : AtMost first bound)
    (alsoAtMost : AtMost second other) (positive : 0 ≤ bound)
    (bounded : bound * other ≤ 2 ^ (1000 : ℤ)) :
    AtMost (first * second) (ceiling (bound * other)) := by
  rcases atMost with ⟨sign, isZero⟩ | ⟨number, within, amounts⟩
  · rcases alsoAtMost with ⟨also, alsoZero⟩ | ⟨_, -, _, _, _, unpacked, -⟩
    · apply atMost_of_zero
      rw [unpack_mul, isZero, alsoZero]
      rfl
    · apply atMost_of_zero
      rw [unpack_mul, isZero, unpacked]
      rfl
  · rcases alsoAtMost with ⟨also, alsoZero⟩ | ⟨factor, alsoWithin, alsoAmounts⟩
    · obtain ⟨_, _, _, unpacked, -⟩ := amounts
      apply atMost_of_zero
      rw [unpack_mul, unpacked, alsoZero]
      rfl
    · have le := mul_le_mul within alsoWithin alsoAmounts.pos.le positive
      exact (mul_amounts amounts alsoAmounts (le.trans bounded)).mono (ceiling_mono le)

/-- A quotient of natural numbers splits into its whole part and its remainder's share. -/
theorem cast_div_eq (dividend : ℕ) {divisor : ℕ} (positive : 0 < divisor) :
    (dividend : ℚ) / divisor =
      (dividend / divisor : ℕ) + (dividend % divisor : ℕ) / (divisor : ℚ) := by
  have filled : (divisor : ℚ) ≠ 0 := by exact_mod_cast positive.ne'
  have split : (dividend : ℚ) = divisor * (dividend / divisor : ℕ) + (dividend % divisor : ℕ) := by
    exact_mod_cast (Nat.div_add_mod dividend divisor).symm
  rw [eq_comm, eq_div_iff filled, add_mul, div_mul_cancel₀ _ filled, mul_comm]
  exact split.symm

/-- What is left over tells of its part of the divisor. -/
theorem tells_of_rest (digits : ℕ) {rest divisor : ℕ} (short : rest < divisor) :
    Tells (ExtendedMantissa.ofMantissaAndAccuracy digits (accuracyOfFraction rest divisor))
      (digits + rest / (divisor : ℚ)) := by
  have filled : (0 : ℚ) < divisor := by exact_mod_cast (Nat.zero_le rest).trans_lt short
  unfold accuracyOfFraction
  split
  · rename_i whole
    rw [whole, Nat.cast_zero, zero_div, add_zero]
    rfl
  · rename_i part
    have some : (0 : ℚ) < rest := by exact_mod_cast Nat.pos_of_ne_zero part
    have above : 0 < (rest : ℚ) / divisor := div_pos some filled
    have below : (rest : ℚ) / divisor < 1 := (div_lt_one filled).mpr (by exact_mod_cast short)
    rcases order : compare (2 * rest) divisor with _ | _ | _
    · have less : (2 : ℚ) * rest < divisor := by exact_mod_cast Nat.compare_eq_lt.mp order
      have half : (rest : ℚ) / divisor < 1 / 2 := by
        rw [div_lt_iff₀ filled]
        linarith
      change (digits : ℚ) < _ ∧ _ < (digits : ℚ) + 1 / 2
      exact ⟨lt_add_of_pos_right _ above, by linarith⟩
    · have same : (2 : ℚ) * rest = divisor := by exact_mod_cast Nat.compare_eq_eq.mp order
      have half : (rest : ℚ) / divisor = 1 / 2 := by
        rw [div_eq_iff filled.ne']
        linarith
      change _ = (digits : ℚ) + 1 / 2
      rw [half]
    · have greater : (divisor : ℚ) < 2 * rest := by exact_mod_cast Nat.compare_eq_gt.mp order
      have half : 1 / 2 < (rest : ℚ) / divisor := by
        rw [lt_div_iff₀ filled]
        linarith
      change (digits : ℚ) + 1 / 2 < _ ∧ _ < (digits : ℚ) + 1
      exact ⟨by linarith, by linarith⟩

/-- The digits of a quotient and what is left over tell of the quotient. -/
theorem tells_accuracyOfFraction (dividend : ℕ) {divisor : ℕ} (positive : 0 < divisor) :
    Tells (ExtendedMantissa.ofMantissaAndAccuracy (dividend / divisor)
      (accuracyOfFraction (dividend % divisor) divisor)) ((dividend : ℚ) / divisor) := by
  rw [cast_div_eq dividend positive]
  exact tells_of_rest _ (Nat.mod_lt dividend positive)

/-- A quotient is divided far enough to be rounded. -/
theorem long_divCore {first second : ℕ} (place other : ℤ) (positive : 0 < first)
    (alsoPositive : 0 < second) :
    ∃ count : ℕ, divCore Format.binary64 first place second other =
        (first * 2 ^ count / second, place - other - count,
          accuracyOfFraction (first * 2 ^ count % second) second) ∧
      (52 ≤ (first * 2 ^ count / second).log2 ∨ place - other - count ≤ -1074) := by
  have target : Format.binary64.targetExponent
      (totalExponent first place - totalExponent second other) =
        max (first.log2 + place - (second.log2 + other) - 53) (-1074) := by
    change max ((first.log2 : ℤ) + 1 + place - (second.log2 + 1 + other) - 53) (-1074) = _
    omega
  obtain ⟨count, reached⟩ := Int.le.dest (min_le_left (place - other)
    (max (first.log2 + place - (second.log2 + other) - 53) (-1074)))
  refine ⟨count, ?_, ?_⟩
  · have shifts : (place - other - (place - other - count)).toNat = count := by omega
    have lowered : min (place - other)
        (max (first.log2 + place - (second.log2 + other) - 53) (-1074)) =
          place - other - count := by omega
    simp only [divCore, target, lowered, shifts, Nat.shiftLeft_eq]
  · by_cases lowest : place - other - count ≤ -1074
    · exact .inr lowest
    · left
      have enough : second.log2 + 53 ≤ first.log2 + count := by omega
      have digits : 2 ^ 52 * second ≤ first * 2 ^ count := by
        calc 2 ^ 52 * second ≤ 2 ^ 52 * 2 ^ (second.log2 + 1) :=
              Nat.mul_le_mul_left _ Nat.lt_log2_self.le
          _ = 2 ^ (second.log2 + 53) := by rw [← pow_add]; congr 1; omega
          _ ≤ 2 ^ (first.log2 + count) := Nat.pow_le_pow_right two_pos enough
          _ ≤ first * 2 ^ count := by
            rw [pow_add]
            exact Nat.mul_le_mul_right _ (Nat.log2_self_le positive.ne')
      have quotient := (Nat.le_div_iff_mul_le alsoPositive).mpr digits
      exact (Nat.le_log2 (Nat.two_pow_pos 52 |>.trans_le quotient).ne').mpr quotient

/-- The quotient of two finite floats is the rounded quotient of their numbers. -/
theorem div_finite (sign other : Sign) {first second : ℕ} (place last : ℤ) (positive : 0 < first)
    (alsoPositive : 0 < second) :
    let quotient := UnpackedFloat.div Format.binary64 (.finite sign first place positive)
      (.finite other second last alsoPositive)
    let number : ℚ := first * 2 ^ place / (second * 2 ^ last)
    IsReal (sign / other) quotient ∧ Canonical quotient ∧
      (|magnitude quotient - number| ≤ number / 2 ^ 53 ∨
        magnitude quotient ≤ 2 ^ (-1021 : ℤ)) := by
  intro quotient number
  obtain ⟨count, divided, long⟩ := long_divCore place last positive alsoPositive
  have filled : (second : ℚ) ≠ 0 := by exact_mod_cast alsoPositive.ne'
  have tells := tells_accuracyOfFraction (first * 2 ^ count) alsoPositive
  have scaled : ((first * 2 ^ count : ℕ) : ℚ) / second = number / 2 ^ (place - last - count) := by
    rw [zpow_sub₀ two_ne_zero, zpow_sub₀ two_ne_zero, zpow_natCast, Nat.cast_mul, Nat.cast_pow,
      Nat.cast_ofNat]
    unfold number
    field_simp
  rw [scaled] at tells
  have rounds : quotient = roundWithAccuracy Format.binary64 (sign / other)
      (first * 2 ^ count / second) (place - last - count)
      (accuracyOfFraction (first * 2 ^ count % second) second) := by
    change (match divCore Format.binary64 first place second last with
      | (mantissa, exponent, accuracy) =>
          roundWithAccuracy Format.binary64 (sign / other) mantissa exponent accuracy) = _
    rw [divided]
  obtain ⟨real, rounded, near⟩ := roundWithAccuracy_near (sign / other) long tells
  rw [rounds]
  exact ⟨real, rounded, near.imp_right And.left⟩

/-- The quotient of two floats comes to the ceiling of the exact quotient at most. -/
theorem div_amounts {first second : Float} {number other : ℚ} (amounts : Amounts first number)
    (alsoAmounts : Amounts second other) (bounded : number / other ≤ 2 ^ (1000 : ℤ)) :
    AtMost (first / second) (ceiling (number / other)) := by
  obtain ⟨mantissa, place, positive, unpacked, rfl⟩ := amounts
  obtain ⟨digits, last, alsoPositive, alsoUnpacked, rfl⟩ := alsoAmounts
  obtain ⟨real, rounded, near⟩ :=
    div_finite .positive .positive place last positive alsoPositive
  refine atMost_of_rounded ?_ bounded real rounded near
  rw [unpack_div, unpacked, alsoUnpacked]

end MicroDevice.Binary64
