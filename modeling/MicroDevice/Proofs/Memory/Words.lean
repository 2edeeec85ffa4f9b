import Mathlib.Algebra.Order.Floor.Div
import MicroDevice.Word

/-! # Words as natural numbers

What the arithmetic on words comes to in natural numbers, which have no greatest address: a sum
is there just if it is below the size of the address space (`add?_eq_some_iff`), as is that of
a list (`sum?_isSome_iff`), and rounding up is the least multiple (`ceiling`) unless that is
past the top.
-/

namespace MicroDevice.Word

/-- The greatest address. -/
def top : UInt64 := UInt64.ofNat (UInt64.size - 1)

/-- The least multiple of a step that is no less than a number. -/
def ceiling (value step : Nat) : Nat := step * (value ⌈/⌉ step)

theorem toNat_le_top (address : UInt64) : address.toNat ≤ top.toNat :=
  Nat.le_of_lt_succ address.toNat_lt

/-! ## Sums -/

/-- The checked sum of two words is their sum as natural numbers, where it is one. -/
theorem add?_eq_some_iff {first second total : UInt64} :
    add? first second = some total ↔ total.toNat = first.toNat + second.toNat := by
  have size_eq : UInt64.size = 2 ^ 64 := rfl
  unfold add?
  split
  · rename_i fits
    rw [Option.some.injEq, ← UInt64.toNat_inj, UInt64.toNat_add, Nat.mod_eq_of_lt fits]
    exact eq_comm
  · rename_i overflows
    have bounded := total.toNat_lt
    constructor
    · intro impossible
      cases impossible
    · intro same
      omega

/-- Two words can be added exactly when their sum is below `2 ^ 64`. -/
theorem add?_isSome_iff {first second : UInt64} :
    (add? first second).isSome = true ↔ first.toNat + second.toNat < UInt64.size := by
  unfold add?
  split <;> simp_all

theorem eq_add_of_add? {first second total : UInt64} (adds : add? first second = some total) :
    total = first + second := by
  unfold add? at adds
  split at adds <;> cases adds
  rfl

/-- The saturating sum is the sum cut off at the top. -/
theorem toNat_addSaturating (first second : UInt64) :
    (addSaturating first second).toNat = min (first.toNat + second.toNat) top.toNat := by
  have top_eq : top.toNat = UInt64.size - 1 := rfl
  unfold addSaturating
  rcases adds : add? first second with _ | total
  · have overflows : ¬ first.toNat + second.toNat < UInt64.size := by
      rw [← add?_isSome_iff, adds]
      exact Bool.noConfusion
    change top.toNat = _
    omega
  · have total_eq := add?_eq_some_iff.mp adds
    have bounded := toNat_le_top total
    change total.toNat = _
    omega

/-- Adding up words from a start succeeds exactly when the whole sum is below `2 ^ 64`. -/
theorem foldlM_add?_isSome_iff (words : List UInt64) (start : UInt64) :
    (words.foldlM add? start).isSome = true ↔
      start.toNat + (words.map UInt64.toNat).sum < UInt64.size := by
  induction words generalizing start with
  | nil =>
      refine iff_of_true rfl ?_
      exact start.toNat_lt
  | cons word later ih =>
      rw [List.foldlM_cons, List.map_cons, List.sum_cons]
      rcases adds : add? start word with _ | total
      · have overflows : ¬ start.toNat + word.toNat < UInt64.size := by
          rw [← add?_isSome_iff, adds]
          exact Bool.noConfusion
        refine iff_of_false Bool.noConfusion ?_
        omega
      · have total_eq := add?_eq_some_iff.mp adds
        change (later.foldlM add? total).isSome = true ↔ _
        rw [ih, total_eq, Nat.add_assoc]

/-- Where adding up words from a start succeeds, it gives their sum as natural numbers. -/
theorem foldlM_add?_eq_some {words : List UInt64} {start total : UInt64}
    (adds : words.foldlM add? start = some total) :
    total.toNat = start.toNat + (words.map UInt64.toNat).sum := by
  induction words generalizing start with
  | nil =>
      cases adds
      rfl
  | cons word later ih =>
      rw [List.foldlM_cons] at adds
      obtain ⟨middle, first, rest⟩ := Option.bind_eq_some_iff.mp adds
      rw [ih rest, add?_eq_some_iff.mp first, List.map_cons, List.sum_cons, Nat.add_assoc]

/-- The checked sum of words exists exactly when their sum is below `2 ^ 64`. -/
theorem sum?_isSome_iff (words : List UInt64) :
    (sum? words).isSome = true ↔ (words.map UInt64.toNat).sum < UInt64.size := by
  have sums := foldlM_add?_isSome_iff words 0
  rwa [UInt64.toNat_zero, Nat.zero_add] at sums

/-- A checked sum of words is their sum as natural numbers. -/
theorem toNat_of_sum? {words : List UInt64} {total : UInt64} (sums : sum? words = some total) :
    total.toNat = (words.map UInt64.toNat).sum := by
  have total_eq := foldlM_add?_eq_some sums
  rwa [UInt64.toNat_zero, Nat.zero_add] at total_eq

/-- A word is the checked sum exactly when it is the sum as natural numbers. -/
theorem sum?_eq_some_iff {words : List UInt64} {total : UInt64} :
    sum? words = some total ↔ total.toNat = (words.map UInt64.toNat).sum := by
  refine ⟨toNat_of_sum?, fun total_eq => ?_⟩
  have isWord := (sum?_isSome_iff words).mpr (by rw [← total_eq]; exact total.toNat_lt)
  obtain ⟨sum, sums⟩ := Option.isSome_iff_exists.mp isWord
  have same := toNat_of_sum? sums
  rw [← total_eq] at same
  rw [sums, UInt64.toNat_inj.mp same]

theorem sum?_eq_none_iff {words : List UInt64} :
    sum? words = none ↔ UInt64.size ≤ (words.map UInt64.toNat).sum := by
  rw [← Option.not_isSome_iff_eq_none, sum?_isSome_iff, Nat.not_lt]

/-! ## Rounding -/

theorem le_ceiling {step : Nat} (positive : 0 < step) (value : Nat) :
    value ≤ ceiling value step :=
  le_smul_ceilDiv positive

theorem dvd_ceiling (value step : Nat) : step ∣ ceiling value step :=
  Nat.dvd_mul_right step _

/-- No multiple of the step that is no less than a number is less than its ceiling. -/
theorem ceiling_le {value step bound : Nat} (positive : 0 < step) (le : value ≤ bound)
    (dvd : step ∣ bound) : ceiling value step ≤ bound := by
  obtain ⟨factor, rfl⟩ := dvd
  refine Nat.mul_le_mul_left step ?_
  rw [ceilDiv_le_iff_le_mul positive]
  exact le

theorem ceiling_of_dvd {value step : Nat} (positive : 0 < step) (dvd : step ∣ value) :
    ceiling value step = value :=
  Nat.le_antisymm (ceiling_le positive le_rfl dvd) (le_ceiling positive value)

/-- Rounding up commutes with a shift by a multiple of the step. -/
theorem ceiling_add {step start : Nat} (positive : 0 < step) (dvd : step ∣ start) (value : Nat) :
    ceiling (start + value) step = start + ceiling value step := by
  apply Nat.le_antisymm
  · apply ceiling_le positive
    · exact Nat.add_le_add_left (le_ceiling positive value) start
    · exact Nat.dvd_add dvd (dvd_ceiling value step)
  · have reached := le_ceiling positive (start + value)
    have rest : ceiling value step ≤ ceiling (start + value) step - start := by
      apply ceiling_le positive
      · omega
      · exact Nat.dvd_sub (dvd_ceiling (start + value) step) dvd
    omega

theorem ceiling_le_mul {step : Nat} (positive : 0 < step) (value : Nat) :
    ceiling value step ≤ value * step :=
  ceiling_le positive (Nat.le_mul_of_pos_right value positive) (Nat.dvd_mul_left step value)

theorem ceiling_lt {step : Nat} (positive : 0 < step) (value : Nat) :
    ceiling value step < value + step := by
  have split := Nat.div_add_mod value step
  have short := Nat.mod_lt value positive
  rcases Nat.eq_zero_or_pos (value % step) with whole | part
  · rw [ceiling_of_dvd positive (Nat.dvd_of_mod_eq_zero whole)]
    omega
  · have least : ceiling value step ≤ step * (value / step + 1) := by
      apply ceiling_le positive
      · rw [Nat.mul_succ]
        omega
      · exact Nat.dvd_mul_right step _
    rw [Nat.mul_succ] at least
    omega

/-- Rounding up takes one step more than division does, unless nothing is left over. -/
theorem ceiling_eq {step : Nat} (positive : 0 < step) (value : Nat) :
    ceiling value step = (value / step + if value % step = 0 then 0 else 1) * step := by
  have split := Nat.div_add_mod value step
  split
  · rename_i whole
    rw [ceiling_of_dvd positive (Nat.dvd_of_mod_eq_zero whole), Nat.add_zero, Nat.mul_comm]
    omega
  · rename_i part
    rw [Nat.mul_comm]
    apply Nat.le_antisymm
    · apply ceiling_le positive
      · have short := Nat.mod_lt value positive
        rw [Nat.mul_succ]
        omega
      · exact Nat.dvd_mul_right step _
    · refine Nat.mul_le_mul_left step ?_
      have reached := le_ceiling positive value
      have further : step * (value / step) < step * (value ⌈/⌉ step) := by
        change value ≤ step * (value ⌈/⌉ step) at reached
        omega
      exact Nat.lt_of_mul_lt_mul_left further

/-- Rounding up a word comes to the ceiling if that is a word. -/
theorem toNat_roundUp {value step : UInt64} (positive : 0 < step.toNat)
    (fits : ceiling value.toNat step.toNat < UInt64.size) :
    (roundUp value step).toNat = ceiling value.toNat step.toNat := by
  have remainder : value % step = 0 ↔ value.toNat % step.toNat = 0 := by
    rw [← UInt64.toNat_inj, UInt64.toNat_mod, UInt64.toNat_zero]
  have quotient : (value / step + if value % step = 0 then 0 else 1).toNat =
      (value.toNat / step.toNat + if value.toNat % step.toNat = 0 then 0 else 1) %
        UInt64.size := by
    rw [UInt64.toNat_add, UInt64.toNat_div]
    simp only [remainder, apply_ite UInt64.toNat]
    rfl
  rw [ceiling_eq positive] at fits ⊢
  have smaller := Nat.le_mul_of_pos_right
    (value.toNat / step.toNat + if value.toNat % step.toNat = 0 then 0 else 1) positive
  rw [roundUp, UInt64.toNat_mul, quotient, Nat.mod_eq_of_lt (smaller.trans_lt fits)]
  exact Nat.mod_eq_of_lt fits

/-- What comes after a rounded word is exact if there is room for the size rounded up too. -/
theorem toNat_roundUp_add {value step size : UInt64} (positive : 0 < step.toNat)
    (fits : ceiling value.toNat step.toNat + ceiling size.toNat step.toNat < UInt64.size) :
    (roundUp value step).toNat = ceiling value.toNat step.toNat ∧
      (roundUp value step + size).toNat = ceiling value.toNat step.toNat + size.toNat := by
  have covered := le_ceiling positive size.toNat
  have rounded : (roundUp value step).toNat = ceiling value.toNat step.toNat :=
    toNat_roundUp positive (by omega)
  refine ⟨rounded, ?_⟩
  rw [UInt64.toNat_add, rounded]
  apply Nat.mod_eq_of_lt
  change _ < UInt64.size
  omega

/-- Rounding down keeps the whole steps of the value. -/
theorem toNat_roundDown (value step : UInt64) :
    (roundDown value step).toNat = value.toNat / step.toNat * step.toNat := by
  have split := Nat.div_add_mod value.toNat step.toNat
  have le : value % step ≤ value := by
    rw [UInt64.le_iff_toNat_le, UInt64.toNat_mod]
    exact Nat.mod_le _ _
  rw [roundDown, UInt64.toNat_sub_of_le _ _ le, UInt64.toNat_mod, Nat.mul_comm]
  omega

theorem roundDown_le (value step : UInt64) : (roundDown value step).toNat ≤ value.toNat := by
  rw [toNat_roundDown]
  exact Nat.div_mul_le_self _ _

end MicroDevice.Word
