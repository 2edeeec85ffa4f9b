import MicroDevice.Proofs.Number.Rounding

/-! # Floats in their bits

A finite float whose exponent is not too great is read from its bits as it was, and one whose
exponent is too great is read as infinite (`unpack_pack`). What is read from any bits is in
canonical form (`canonical_unpack`).
-/

namespace MicroDevice.Binary64

open Float.Model Float.Model.UnpackedFloat

/-- Setting the implicit bit adds `2 ^ 52` to the mantissa. -/
theorem toNat_implicit (mantissa : BitVec 52) :
    (1#1 ++ mantissa).toNat = 2 ^ 52 + mantissa.toNat := by
  rw [BitVec.toNat_append, ← Nat.shiftLeft_add_eq_or_of_lt mantissa.isLt]
  rfl

/-- What is read from any bits is in canonical form. -/
theorem canonical_unpack (bits : BitVec 64) :
    Canonical (UnpackedFloat.unpack Format.binary64 bits) := by
  unfold UnpackedFloat.unpack
  dsimp only
  split
  · split <;> trivial
  split
  · split
    · trivial
    · rename_i subnormal _
      have lowest : ((@unpackExponent Format.binary64 bits).toNat : ℤ) -
          (Format.binary64.exponentBias + 52 : ℤ) + 1 = -1074 := by
        rw [subnormal]
        rfl
      exact ⟨(BitVec.isLt _).trans (by norm_num), lowest.ge, .inr lowest⟩
  · rename_i normal
    have above : 0 < (@unpackExponent Format.binary64 bits).toNat := by
      apply Nat.pos_of_ne_zero
      intro zero
      exact normal (BitVec.eq_of_toNat_eq zero)
    have digits : (@unpackMantissa Format.binary64 bits).toNat < 2 ^ 52 := BitVec.isLt _
    have bias : (Format.binary64.exponentBias : ℤ) = 1023 := rfl
    refine ⟨?_, ?_, .inl ?_⟩
    · rw [toNat_implicit]
      omega
    · omega
    · rw [toNat_implicit]
      omega

/-- A packed float with an exponent inside the range unpacks with its implicit bit set. -/
theorem unpack_normal (sign : Sign) {exponent : BitVec 11} (below : exponent.toNat < 2047)
    (above : 0 < exponent.toNat) (mantissa : BitVec 52) :
    UnpackedFloat.unpack Format.binary64 (packComponents Format.binary64 sign exponent mantissa) =
      .finite sign (2 ^ 52 + mantissa.toNat) (exponent.toNat - 1075) (by positivity) := by
  have notGreatest : exponent ≠ -1#11 := by
    rintro rfl
    exact absurd below (by decide)
  have notLeast : exponent ≠ 0#11 := by
    rintro rfl
    exact absurd above (by decide)
  simp only [UnpackedFloat.unpack, unpackMantissa_packComponents, unpackExponent_packComponents,
    unpackSign_packComponents, Sign.ofBitVec_toBitVec, toNat_implicit, notGreatest, notLeast,
    ↓reduceIte]
  rfl

/-- A packed float with exponent zero unpacks to its bare mantissa in the lowest place. -/
theorem unpack_subnormal (sign : Sign) {mantissa : BitVec 52} (positive : 0 < mantissa.toNat) :
    UnpackedFloat.unpack Format.binary64 (packComponents Format.binary64 sign 0#11 mantissa) =
      .finite sign mantissa.toNat (-1074) positive := by
  have notZero : mantissa ≠ 0#52 := by
    rintro rfl
    exact absurd positive (by decide)
  simp only [UnpackedFloat.unpack, unpackMantissa_packComponents, unpackExponent_packComponents,
    unpackSign_packComponents, Sign.ofBitVec_toBitVec, notZero, ↓reduceDIte]
  rfl

/-- The packed infinity unpacks to infinity of its sign. -/
theorem unpack_packedInfinity (sign : Sign) :
    UnpackedFloat.unpack Format.binary64 (packedInfinity Format.binary64 sign) =
      .infinity sign := by
  simp only [UnpackedFloat.unpack, packedInfinity, unpackMantissa_packComponents,
    unpackExponent_packComponents, unpackSign_packComponents, Sign.ofBitVec_toBitVec, ↓reduceIte]
  rfl

/-- A finite float is read from its bits as it was, unless its exponent is too great: then it is
read as infinite. -/
theorem unpack_pack_finite (sign : Sign) {mantissa : ℕ} {exponent : ℤ} (positive : 0 < mantissa)
    (canonical : Canonical (.finite sign mantissa exponent positive)) :
    UnpackedFloat.unpack Format.binary64
        (UnpackedFloat.pack Format.binary64 (.finite sign mantissa exponent positive)) =
      if exponent ≤ 971 then .finite sign mantissa exponent positive else .infinity sign := by
  obtain ⟨bounded, lowest, full⟩ := canonical
  have size : (BitVec.ofNat 11 (exponent + 1075).toNat).toNat = (exponent + 1075).toNat % 2048 :=
    BitVec.toNat_ofNat _ _
  have digits : (BitVec.ofNat 52 mantissa).toNat = mantissa % 2 ^ 52 := BitVec.toNat_ofNat _ _
  have biased : (exponent + (Format.binary64.exponentBias : ℤ) +
      (Format.binary64.mantissaBitsWithoutImplicit : ℤ)).toNat = (exponent + 1075).toNat := by
    change (exponent + 1023 + 52).toNat = _
    omega
  simp only [UnpackedFloat.pack, biased]
  by_cases fits : exponent ≤ 971
  · rw [if_neg (by change ¬ 2048 ≤ _; omega), if_pos fits]
    by_cases normal : 2 ^ 52 ≤ mantissa
    · have long : mantissa.log2 = 52 := (Nat.log2_eq_iff positive.ne').mpr ⟨normal, bounded⟩
      rw [if_pos (by rw [long]; rfl), unpack_normal sign (by omega) (by omega)]
      simp only [UnpackedFloat.finite.injEq, true_and]
      omega
    · have short : mantissa.log2 + 1 ≠ Format.binary64.mantissaBits := by
        have less := (Nat.log2_lt positive.ne').mpr (not_le.mp normal)
        change _ ≠ 53
        omega
      rw [if_neg short, unpack_subnormal sign (by omega)]
      simp only [UnpackedFloat.finite.injEq, true_and]
      omega
  · rw [if_pos (by change 2048 ≤ _; omega), if_neg fits]
    exact unpack_packedInfinity sign

/-- A float in canonical form is read from its bits as it was, or it is too great and read as
infinite. -/
theorem unpack_pack {float : UnpackedFloat} (canonical : Canonical float) :
    (Float.Model.pack float).unpack = float ∨
      ∃ sign mantissa exponent positive, float = .finite sign mantissa exponent positive ∧
        971 < exponent ∧ (Float.Model.pack float).unpack = .infinity sign := by
  change UnpackedFloat.unpack Format.binary64 (UnpackedFloat.pack Format.binary64 float) = _ ∨
    ∃ sign mantissa exponent positive, _ ∧ _ ∧
      UnpackedFloat.unpack Format.binary64 (UnpackedFloat.pack Format.binary64 float) = _
  cases float with
  | infinity sign => exact .inl (unpack_packedInfinity sign)
  | notANumber => exact .inl rfl
  | zero sign => cases sign <;> exact .inl rfl
  | finite sign mantissa exponent positive =>
      rw [unpack_pack_finite sign positive canonical]
      by_cases fits : exponent ≤ 971
      · exact .inl (if_pos fits)
      · exact .inr ⟨sign, mantissa, exponent, positive, rfl, not_le.mp fits, if_neg fits⟩

/-- A float that stands for a number below `2 ^ 1023` is not too great. -/
theorem unpack_pack_of_lt {float : UnpackedFloat} (canonical : Canonical float)
    (below : magnitude float < 2 ^ (1023 : ℤ)) : (Float.Model.pack float).unpack = float := by
  rcases unpack_pack canonical with same | ⟨sign, mantissa, exponent, positive, rfl, great, -⟩
  · exact same
  · exfalso
    obtain ⟨-, -, full⟩ := canonical
    have digits : (2 : ℚ) ^ (52 : ℤ) ≤ mantissa := by
      have full := full.resolve_right (by omega)
      exact_mod_cast full
    have reaches : (2 : ℚ) ^ (52 : ℤ) * 2 ^ (971 : ℤ) ≤ mantissa * 2 ^ exponent :=
      mul_le_mul digits (zpow_le_zpow_right₀ one_le_two great.le) (by positivity) (by positivity)
    rw [← zpow_add₀ two_ne_zero] at reaches
    exact absurd (reaches.trans_lt below) (lt_irrefl _)

end MicroDevice.Binary64
