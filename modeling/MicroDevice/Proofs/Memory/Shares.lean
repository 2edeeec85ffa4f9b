import Mathlib.Data.Fintype.Card
import MicroDevice.Proofs.Memory.Planning
import MicroDevice.Proofs.Number.Conversion

/-! # Shares of the memory left

Weights share what the fixed sizes leave, but each share is rounded for itself: the weights are
added up, divided, multiplied and converted as floats. All shares together may come to more than
there is to share, though only by one part in `2 ^ 49`, so not at all if there is less than
`2 ^ 49` to share (`MemoryLayout.plan_within`).
-/

namespace MicroDevice

open Binary64

/-! ## The total weight -/

/-- A total is finite only if what was added first is. -/
theorem isFinite_of_foldl {shares : List Float} {start : Float}
    (finite : (shares.foldl (· + ·) start).isFinite = true) : start.isFinite = true := by
  induction shares generalizing start with
  | nil => exact finite
  | cons share later ih => exact (isFinite_of_add (ih finite)).1

theorem nonneg_of_mem_amounts {shares : List Float}
    (amounts : ∀ share ∈ shares, Amounts share (amount share)) :
    ∀ number ∈ shares.map amount, 0 ≤ number := by
  intro number member
  obtain ⟨share, isShare, rfl⟩ := List.mem_map.mp member
  exact (amounts share isShare).pos.le

theorem sum_amount_nonneg {shares : List Float}
    (amounts : ∀ share ∈ shares, Amounts share (amount share)) :
    0 ≤ (shares.map amount).sum :=
  List.sum_nonneg (nonneg_of_mem_amounts amounts)

/-- Each weight that is added takes at most one part in `2 ^ 53` from the total. -/
theorem foldl_amounts {shares : List Float} {start : Float} {number : ℚ}
    (amounts : Amounts start number)
    (positive : ∀ share ∈ shares, IsPositive share.toModel.unpack)
    (finite : (shares.foldl (· + ·) start).isFinite = true) :
    (∀ share ∈ shares, Amounts share (amount share)) ∧
      ∃ total, Amounts (shares.foldl (· + ·) start) total ∧
        (number + (shares.map amount).sum) * (1 - 1 / 2 ^ 53) ^ shares.length ≤ total := by
  induction shares generalizing start number with
  | nil =>
      refine ⟨by simp, number, amounts, ?_⟩
      simp
  | cons share later ih =>
      obtain ⟨first, others⟩ := List.forall_mem_cons.mp positive
      rw [List.foldl_cons] at finite ⊢
      have added := isFinite_of_foldl finite
      have shareAmounts := amounts_of_isPositive first (isFinite_of_add added).2
      obtain ⟨sum, sumAmounts, near⟩ := add_amounts amounts shareAmounts added
      obtain ⟨laterAmounts, total, totalAmounts, least⟩ := ih sumAmounts others finite
      refine ⟨List.forall_mem_cons.mpr ⟨shareAmounts, laterAmounts⟩, total, totalAmounts, ?_⟩
      have rest := sum_amount_nonneg laterAmounts
      refine le_trans ?_ least
      rw [List.length_cons, pow_succ', ← mul_assoc, List.map_cons, List.sum_cons]
      apply mul_le_mul_of_nonneg_right _ (by norm_num)
      linarith

/-- The total weight, if it is finite and there is a weight. -/
theorem total_amounts {shares : List Float} (some : shares ≠ [])
    (positive : ∀ share ∈ shares, IsPositive share.toModel.unpack)
    (finite : (shares.foldl (· + ·) 0.0).isFinite = true) :
    (∀ share ∈ shares, Amounts share (amount share)) ∧
      ∃ total, Amounts (shares.foldl (· + ·) 0.0) total ∧
        (shares.map amount).sum * (1 - 1 / 2 ^ 53) ^ shares.length ≤ total := by
  obtain ⟨share, later, rfl⟩ := List.exists_cons_of_ne_nil some
  obtain ⟨first, others⟩ := List.forall_mem_cons.mp positive
  rw [List.foldl_cons] at finite ⊢
  have added := isFinite_of_foldl finite
  have shareAmounts := amounts_of_isPositive first (isFinite_of_add added).2
  obtain ⟨laterAmounts, total, totalAmounts, least⟩ :=
    foldl_amounts (zero_add_amounts unpack_zero shareAmounts added) others finite
  have allAmounts : ∀ each ∈ share :: later, Amounts each (amount each) :=
    List.forall_mem_cons.mpr ⟨shareAmounts, laterAmounts⟩
  refine ⟨allAmounts, total, totalAmounts, le_trans ?_ least⟩
  apply mul_le_mul_of_nonneg_left _ (sum_amount_nonneg allAmounts)
  exact pow_le_pow_of_le_one (by norm_num) (by norm_num) (Nat.le_succ _)

/-! ## One share -/

/-- A size of one or more within the ceiling of a number exceeds it by one part in `2 ^ 53` at
most. -/
theorem le_of_le_ceiling {size number : ℚ} (filled : 1 ≤ size) (le : size ≤ ceiling number) :
    size ≤ number * (1 + 1 / 2 ^ 53) := by
  rcases le_max_iff.mp le with within | small
  · linarith
  · linarith [tiny_lt]

theorem great_le {number : ℚ} (le : number ≤ 2 ^ 100) : number ≤ 2 ^ (1000 : ℤ) :=
  calc number ≤ 2 ^ (100 : ℤ) := by exact_mod_cast le
    _ ≤ 2 ^ (1000 : ℤ) := zpow_le_zpow_right₀ one_le_two (by norm_num)

/-- A share that is not empty comes to what is due to it, but for three roundings. -/
theorem share_le {share totalWeight : Float} {rest : UInt64} {number total : ℚ}
    (amounts : Amounts share number) (totalAmounts : Amounts totalWeight total)
    (part : number ≤ 2 * total)
    (filled : ((share / totalWeight) * rest.toFloat).toUInt64 ≠ 0) :
    (((share / totalWeight) * rest.toFloat).toUInt64.toNat : ℚ) ≤
      number / total * rest.toNat * (1 + 1 / 2 ^ 53) ^ 3 := by
  have ratio_le : number / total ≤ 2 := (div_le_iff₀ totalAmounts.pos).mpr part
  have ratio_pos : 0 < number / total := div_pos amounts.pos totalAmounts.pos
  have quotient := div_amounts amounts totalAmounts (great_le (by linarith))
  generalize number / total = ratio at ratio_le ratio_pos quotient ⊢
  have word : (rest.toNat : ℚ) ≤ 2 ^ 64 := by exact_mod_cast rest.toNat_lt.le
  have empty : (0 : ℚ) ≤ rest.toNat := Nat.cast_nonneg _
  have ceiling_le : ceiling ratio ≤ 4 := by
    apply max_le <;> linarith [tiny_lt]
  have bounded : ceiling ratio * (rest.toNat + rest.toNat / 2 ^ 53) ≤ 2 ^ 100 := by
    calc ceiling ratio * (rest.toNat + rest.toNat / 2 ^ 53)
        ≤ 4 * 2 ^ 65 := by apply mul_le_mul ceiling_le <;> linarith
      _ ≤ 2 ^ 100 := by norm_num
  have product := mul_atMost quotient (toFloat_atMost rest) (ceiling_pos ratio).le
    (great_le bounded)
  have one_le : (1 : ℚ) ≤ ((share / totalWeight) * rest.toFloat).toUInt64.toNat := by
    exact_mod_cast Nat.one_le_iff_ne_zero.mpr (UInt64.toNat_inj.not.mpr filled)
  have size_le := le_of_le_ceiling one_le (toNat_toUInt64_le product (ceiling_pos _).le)
  have converted : (0 : ℚ) ≤ rest.toNat + rest.toNat / 2 ^ 53 := by linarith
  rcases le_max_iff.mp (le_refl (ceiling ratio)) with normal | tiny
  · calc (((share / totalWeight) * rest.toFloat).toUInt64.toNat : ℚ)
        ≤ ceiling ratio * (rest.toNat + rest.toNat / 2 ^ 53) * (1 + 1 / 2 ^ 53) := size_le
      _ ≤ (ratio + ratio / 2 ^ 53) * (rest.toNat + rest.toNat / 2 ^ 53) * (1 + 1 / 2 ^ 53) := by
          gcongr
      _ = ratio * rest.toNat * (1 + 1 / 2 ^ 53) ^ 3 := by ring
  · -- what is due is less than a byte, so the share is empty
    have small : ceiling ratio * (rest.toNat + rest.toNat / 2 ^ 53) ≤ 1 / 2 ^ 100 * 2 ^ 65 := by
      apply mul_le_mul (tiny.trans tiny_lt.le) <;> linarith
    linarith

namespace MemoryLayout

/-- A share that is not empty was made from a positive weight and a finite total. -/
theorem positive_of_rawSize {totalWeight share : Float} {rest : UInt64}
    (filled : rawSize totalWeight rest (.weight share) ≠ 0) :
    rawSize totalWeight rest (.weight share) =
        ((share / totalWeight) * rest.toFloat).toUInt64 ∧
      IsPositive share.toModel.unpack ∧ totalWeight.isFinite = true := by
  rw [rawSize] at filled ⊢
  by_cases weighs : 0.0 < totalWeight
  · rw [if_pos weighs] at filled ⊢
    have product := isPositive_of_toUInt64 filled
    have quotient := (isPositive_of_mul (toFloat_atMost rest) product).1
    obtain ⟨positive, number, amounts⟩ := isPositive_of_div (isPositive_of_lt weighs) quotient
    exact ⟨rfl, positive, amounts.isFinite⟩
  · rw [if_neg weighs] at filled
    exact absurd rfl filled

/-- Eight additions and the three roundings of each share add at most one part in `2 ^ 49`. -/
theorem roundings_le {sum total : ℚ} (positive : 0 < total) (sum_nonneg : 0 ≤ sum)
    (least : sum * (1 - 1 / 2 ^ 53) ^ 8 ≤ total) :
    sum / total * (1 + 1 / 2 ^ 53) ^ 3 ≤ 1 + 1 / 2 ^ 49 := by
  rw [div_mul_eq_mul_div, div_le_iff₀ positive]
  calc sum * (1 + 1 / 2 ^ 53) ^ 3
      ≤ sum * ((1 + 1 / 2 ^ 49) * (1 - 1 / 2 ^ 53) ^ 8) := by
        apply mul_le_mul_of_nonneg_left _ sum_nonneg
        norm_num
    _ = (1 + 1 / 2 ^ 49) * (sum * (1 - 1 / 2 ^ 53) ^ 8) := by ring
    _ ≤ (1 + 1 / 2 ^ 49) * total := by
        apply mul_le_mul_of_nonneg_left least
        norm_num

/-- No weight is more than twice the total. -/
theorem amount_le {shares : List Float} {total : ℚ}
    (amounts : ∀ share ∈ shares, Amounts share (amount share))
    (least : (shares.map amount).sum * (1 - 1 / 2 ^ 53) ^ 8 ≤ total) {share : Float}
    (member : share ∈ shares) : amount share ≤ 2 * total := by
  have nonneg := sum_amount_nonneg amounts
  have part : amount share ≤ (shares.map amount).sum :=
    List.single_le_sum (nonneg_of_mem_amounts amounts) _ (List.mem_map_of_mem member)
  have half : (shares.map amount).sum * (1 / 2) ≤
      (shares.map amount).sum * (1 - 1 / 2 ^ 53) ^ 8 := by
    apply mul_le_mul_of_nonneg_left _ nonneg
    norm_num
  linarith

/-- The total of at most eight shares loses no more than eight roundings. -/
theorem least_of_few {shares : List Float} {total : ℚ} (few : shares.length ≤ 8)
    (amounts : ∀ share ∈ shares, Amounts share (amount share))
    (lost : (shares.map amount).sum * (1 - 1 / 2 ^ 53) ^ shares.length ≤ total) :
    (shares.map amount).sum * (1 - 1 / 2 ^ 53) ^ 8 ≤ total := by
  refine le_trans ?_ lost
  apply mul_le_mul_of_nonneg_left _ (sum_amount_nonneg amounts)
  exact pow_le_pow_of_le_one (by norm_num) (by norm_num) few

/-- Shares that are not empty come to what is due to all of them, but for the roundings. -/
theorem sum_rawSize_le_due {shares : List Float} {totalWeight : Float} {rest : UInt64} {total : ℚ}
    (amounts : ∀ share ∈ shares, Amounts share (amount share))
    (totalAmounts : Amounts totalWeight total)
    (least : (shares.map amount).sum * (1 - 1 / 2 ^ 53) ^ 8 ≤ total)
    (filled : ∀ share ∈ shares, rawSize totalWeight rest (.weight share) ≠ 0) :
    ((shares.map fun share => (rawSize totalWeight rest (.weight share)).toNat).sum : ℚ) ≤
      (1 + 1 / 2 ^ 49) * rest.toNat := by
  have due : ∀ share ∈ shares, ((rawSize totalWeight rest (.weight share)).toNat : ℚ) ≤
      amount share * (rest.toNat * (1 + 1 / 2 ^ 53) ^ 3 / total) := by
    intro share member
    have same := (positive_of_rawSize (filled share member)).1
    have notZero := filled share member
    rw [same] at notZero ⊢
    have le := share_le (amounts share member) totalAmounts (amount_le amounts least member) notZero
    exact le.trans_eq (by ring)
  calc ((shares.map fun share => (rawSize totalWeight rest (.weight share)).toNat).sum : ℚ)
      = (shares.map fun share =>
          ((rawSize totalWeight rest (.weight share)).toNat : ℚ)).sum := by
        rw [← Nat.coe_castAddMonoidHom, map_list_sum, List.map_map]
        rfl
    _ ≤ (shares.map fun share =>
          amount share * (rest.toNat * (1 + 1 / 2 ^ 53) ^ 3 / total)).sum :=
        List.sum_le_sum due
    _ = (shares.map amount).sum / total * (1 + 1 / 2 ^ 53) ^ 3 * rest.toNat := by
        rw [List.sum_map_mul_right]
        ring
    _ ≤ (1 + 1 / 2 ^ 49) * rest.toNat :=
        mul_le_mul_of_nonneg_right
          (roundings_le totalAmounts.pos (sum_amount_nonneg amounts) least) (Nat.cast_nonneg _)

/-- Whole bytes that come to one part in `2 ^ 49` more at most. -/
theorem le_add_div_of_cast_le {taken rest : ℕ}
    (le : (taken : ℚ) ≤ (1 + 1 / 2 ^ 49) * rest) : taken ≤ rest + rest / 2 ^ 49 := by
  have scaled : taken * 2 ^ 49 ≤ rest * 2 ^ 49 + rest := by
    have cleared := mul_le_mul_of_nonneg_right le (by positivity : (0 : ℚ) ≤ 2 ^ 49)
    have exactly : (1 + 1 / 2 ^ 49) * (rest : ℚ) * 2 ^ 49 = rest * 2 ^ 49 + rest := by ring
    rw [exactly] at cleared
    exact_mod_cast cleared
  omega

/-- Up to eight shares that are not empty come to what there is to share, or to one part in
`2 ^ 49` more. -/
theorem sum_rawSize_le {shares : List Float} {rest : UInt64} (few : shares.length ≤ 8)
    (filled : ∀ share ∈ shares,
      rawSize (shares.foldl (· + ·) 0.0) rest (.weight share) ≠ 0) :
    (shares.map fun share =>
        (rawSize (shares.foldl (· + ·) 0.0) rest (.weight share)).toNat).sum ≤
      rest.toNat + rest.toNat / 2 ^ 49 := by
  by_cases none : shares = []
  · rw [none]
    exact Nat.zero_le _
  obtain ⟨witness, isShare⟩ := List.exists_mem_of_ne_nil shares none
  have finite := (positive_of_rawSize (filled witness isShare)).2.2
  obtain ⟨amounts, total, totalAmounts, lost⟩ := total_amounts none
    (fun share member => (positive_of_rawSize (filled share member)).2.1) finite
  exact le_add_div_of_cast_le
    (sum_rawSize_le_due amounts totalAmounts (least_of_few few amounts lost) filled)

/-! ## Planned totals -/

/-- The bytes that a layout has for a kind. -/
def bytesOf (layout : MemoryLayout) (kind : RegionKind) : ℕ :=
  match layout.extent? kind with
  | some extent => extent.size.toNat
  | none => 0

/-- Summing the sizes of the regions found is summing the bytes of every kind, since a kind without
a region has none. -/
theorem sum_sizes (layout : MemoryLayout) (kinds : List RegionKind) :
    (((kinds.filterMap layout.region?).map (·.size)).map UInt64.toNat).sum =
      (kinds.map layout.bytesOf).sum := by
  induction kinds with
  | nil => rfl
  | cons kind later ih =>
      rw [List.map_cons, List.sum_cons, ← ih, bytesOf, List.filterMap_cons, region?]
      rcases layout.extent? kind with _ | extent
      · exact (Nat.zero_add _).symm
      · rfl

/-- Inserting a region changes the bytes of its own kind alone. -/
theorem bytesOf_insert (layout : MemoryLayout) (kind other : RegionKind) (start : Option UInt64)
    (size : UInt64) : (layout.insert kind start size).bytesOf other =
      if other = kind then size.toNat else layout.bytesOf other := by
  unfold bytesOf insert
  dsimp only
  by_cases same : other = kind
  · rw [if_pos same, if_pos same]
  · rw [if_neg same, if_neg same]

/-- Inserting a region of a new kind adds its size to the bytes of the layout. -/
theorem sum_bytesOf_insert {layout : MemoryLayout} {kind : RegionKind}
    (absent : layout.extent? kind = none) (start : Option UInt64) (size : UInt64)
    {kinds : List RegionKind} (distinct : kinds.Nodup) (member : kind ∈ kinds) :
    (kinds.map (layout.insert kind start size).bytesOf).sum =
      size.toNat + (kinds.map layout.bytesOf).sum := by
  induction kinds with
  | nil => cases member
  | cons other later ih =>
      obtain ⟨fresh, rest⟩ := List.nodup_cons.mp distinct
      rw [List.map_cons, List.sum_cons, List.map_cons, List.sum_cons, bytesOf_insert]
      by_cases same : other = kind
      · subst same
        have unchanged : later.map (layout.insert other start size).bytesOf =
            later.map layout.bytesOf := by
          apply List.map_congr_left
          intro each isLater
          rw [bytesOf_insert, if_neg]
          rintro rfl
          exact fresh isLater
        have nothing : layout.bytesOf other = 0 := by rw [bytesOf, absent]
        rw [if_pos rfl, unchanged, nothing, Nat.zero_add]
      · rw [if_neg same, ih rest (List.mem_of_ne_of_mem (Ne.symm same) member)]
        exact Nat.add_left_comm _ _ _

/-- Stacked sections of distinct kinds that are not in a layout yet add to it what they take
up. -/
theorem sum_bytesOf_stackFrom (size : SectionDemand → UInt64) {sections : List Section}
    (distinct : (sections.map (·.kind)).Nodup) (next : UInt64) {placed : MemoryLayout}
    (absent : ∀ entry ∈ sections, placed.extent? entry.kind = none) :
    (RegionKind.all.map (stackFrom size next placed sections).bytesOf).sum =
      stackedBytes size sections + (RegionKind.all.map placed.bytesOf).sum := by
  induction sections generalizing next placed with
  | nil => exact (Nat.zero_add _).symm
  | cons entry later ih =>
      obtain ⟨fresh, rest⟩ := List.nodup_cons.mp distinct
      obtain ⟨first, others⟩ := List.forall_mem_cons.mp absent
      have stillAbsent : ∀ other ∈ later,
          (placed.insert entry.kind (some next) (size entry.demand)).extent? other.kind = none := by
        intro other member
        have differs : other.kind ≠ entry.kind := by
          intro same
          exact fresh (List.mem_map.mpr ⟨other, member, same⟩)
        rw [← others other member]
        exact if_neg differs
      have all : RegionKind.all.Nodup := by decide
      rw [stackFrom, stackedBytes_cons, ih rest _ stillAbsent,
        sum_bytesOf_insert first _ _ all (RegionKind.mem_all _)]
      omega

/-- A layout of stacked sections of distinct kinds has their size in all. -/
theorem totalSize_stackFrom {size : SectionDemand → UInt64} {sections : List Section}
    (distinct : (sections.map (·.kind)).Nodup) {next : UInt64}
    (below : next.toNat + stackedBytes size sections < UInt64.size) :
    ∃ total, (stackFrom size next empty sections).totalSize = some total ∧
      total.toNat = stackedBytes size sections := by
  have sizes := sum_sizes (stackFrom size next empty sections) RegionKind.all
  rw [sum_bytesOf_stackFrom size distinct next fun _ _ => rfl] at sizes
  have nothing : (RegionKind.all.map empty.bytesOf).sum = 0 := rfl
  have isWord := (Word.sum?_isSome_iff
    (((stackFrom size next empty sections).regions).map (·.size))).mpr
      (lt_of_eq_of_lt sizes (by omega))
  obtain ⟨total, sums⟩ := Option.isSome_iff_exists.mp isWord
  refine ⟨total, sums, ?_⟩
  rw [Word.toNat_of_sum? sums]
  exact sizes

/-- The bytes stacked are those of the fixed sections and those of the weighted ones. -/
theorem stackedBytes_eq (size : SectionDemand → UInt64) (sections : List Section) :
    stackedBytes size sections =
      ((fixedSizes sections).map fun count => (size (.bytes count)).toNat).sum +
        ((weights sections).map fun share => (size (.weight share)).toNat).sum := by
  induction sections with
  | nil => rfl
  | cons entry later ih =>
      obtain ⟨kind, demand⟩ := entry
      rw [stackedBytes_cons, ih]
      cases demand with
      | bytes count => exact (Nat.add_assoc _ _ _).symm
      | weight share => exact Nat.add_left_comm _ _ _

/-- The weights are the shares that sections ask for. -/
theorem mem_weights {sections : List Section} {share : Float} :
    share ∈ weights sections ↔ ∃ entry ∈ sections, entry.demand = .weight share := by
  rw [weights, List.mem_filterMap]
  constructor
  · rintro ⟨⟨kind, demand⟩, member, same⟩
    cases demand with
    | bytes count => cases same
    | weight held =>
        cases same
        exact ⟨_, member, rfl⟩
  · rintro ⟨entry, member, same⟩
    exact ⟨entry, member, by rw [same]⟩

/-- Sections of distinct kinds carry at most eight weights. -/
theorem length_weights_le {sections : List Section} (distinct : (sections.map (·.kind)).Nodup) :
    (weights sections).length ≤ 8 := by
  have subset : sections.map (·.kind) ⊆ RegionKind.all := fun kind _ => RegionKind.mem_all kind
  have few := (List.subperm_of_subset distinct subset).length_le
  rw [List.length_map] at few
  exact (List.length_filterMap_le _ _).trans few

/-- The sections of a plan take up the memory given at most, or more by one part in `2 ^ 49` of
what the weights share. -/
theorem stackedBytes_le {wordSize available fixed : UInt64} {sections : List Section}
    (distinct : (sections.map (·.kind)).Nodup)
    (sums : Word.sum? (fixedSizes sections) = some fixed) (fits : fixed ≤ available)
    (filled : ∀ entry ∈ sections, Word.roundDown (rawSize ((weights sections).foldl (· + ·) 0.0)
      (available - fixed) entry.demand) wordSize ≠ 0) :
    let taken := stackedBytes (fun demand => Word.roundDown (rawSize
      ((weights sections).foldl (· + ·) 0.0) (available - fixed) demand) wordSize) sections
    taken ≤ available.toNat + (available - fixed).toNat / 2 ^ 49 ∧
      (weights sections = [] → taken ≤ available.toNat) := by
  intro taken
  have notEmpty : ∀ share ∈ weights sections, rawSize ((weights sections).foldl (· + ·) 0.0)
      (available - fixed) (.weight share) ≠ 0 := by
    intro share member empty
    obtain ⟨entry, isSection, same⟩ := mem_weights.mp member
    apply filled entry isSection
    rw [same, empty, ← UInt64.toNat_inj]
    exact Nat.le_zero.mp (Word.roundDown_le 0 wordSize)
  have shared := sum_rawSize_le (length_weights_le distinct) notEmpty
  have rest : (available - fixed).toNat = available.toNat - fixed.toNat :=
    UInt64.toNat_sub_of_le _ _ fits
  have within : fixed.toNat ≤ available.toNat := fits
  have parts : taken ≤ fixed.toNat + ((weights sections).map fun share => (rawSize
      ((weights sections).foldl (· + ·) 0.0) (available - fixed) (.weight share)).toNat).sum := by
    rw [Word.toNat_of_sum? sums]
    refine (stackedBytes_eq _ sections).trans_le (Nat.add_le_add ?_ ?_)
    · exact List.sum_le_sum fun count _ => Word.roundDown_le count wordSize
    · exact List.sum_le_sum fun share _ => Word.roundDown_le _ wordSize
  refine ⟨by omega, fun unweighted => parts.trans ?_⟩
  rw [unweighted]
  exact within

/-- A plan of distinct kinds that succeeds hands out the memory given at most, or more by one
part in `2 ^ 49` of what the weights share. It never hands out more if there are no weights, or if
they share less than `2 ^ 49` bytes. -/
theorem plan_within {base available wordSize : UInt64} {sections : List Section}
    {layout : MemoryLayout} (distinct : (sections.map (·.kind)).Nodup)
    (planned : plan base available wordSize sections = .ok layout) :
    ∃ fixed total, Word.sum? (fixedSizes sections) = some fixed ∧ fixed ≤ available ∧
      layout.totalSize = some total ∧
      total.toNat ≤ available.toNat + (available - fixed).toNat / 2 ^ 49 ∧
      (weights sections = [] ∨ (available - fixed).toNat < 2 ^ 49 → total ≤ available) ∧
      ∀ region ∈ layout.regions, ∃ address, region.base = some address ∧
        address.toNat + region.size.toNat ≤ base.toNat + total.toNat := by
  obtain ⟨-, fixed, sums, fits, places⟩ := plan_eq_ok planned
  have stacked := stacks_of_placeFrom (fun _ => rfl) places
  obtain ⟨filled, below, rfl⟩ := placeFrom_eq_ok_iff.mp places
  obtain ⟨most, unweighted⟩ := stackedBytes_le distinct sums fits filled
  obtain ⟨total, totals, total_eq⟩ := totalSize_stackFrom distinct below
  refine ⟨fixed, total, sums, fits, totals, total_eq.trans_le most, ?_, ?_⟩
  · rintro (none | small)
    · exact total_eq.trans_le (unweighted none)
    · rw [Nat.div_eq_of_lt small] at most
      exact total_eq.trans_le most
  · intro region member
    rw [total_eq]
    exact stacked.ends_within member

/-- A single weight is rounded up to one byte more than there is. -/
theorem plan_within_exceeding :
    let layout := empty.insert .text (some 0) 9007199254740996
    plan 0 9007199254740995 1 [⟨.text, .weight 1⟩] = .ok layout ∧
      ∃ fixed total, Word.sum? (fixedSizes [⟨.text, .weight 1⟩]) = some fixed ∧
        layout.totalSize = some total ∧ (9007199254740995 : UInt64) < total ∧
        total.toNat ≤ 9007199254740995 + ((9007199254740995 : UInt64) - fixed).toNat / 2 ^ 49 := by
  intro layout
  have planned : plan 0 9007199254740995 1 [⟨.text, .weight 1⟩] = .ok layout := by
    decide +kernel
  obtain ⟨fixed, total, sums, -, totals, most, -⟩ := plan_within (by decide) planned
  refine ⟨planned, fixed, total, sums, totals, ?_, most⟩
  have held : layout.totalSize = some 9007199254740996 := by decide +kernel
  rw [held] at totals
  cases totals
  decide

end MemoryLayout

end MicroDevice
