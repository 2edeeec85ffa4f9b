import MicroDevice.Proofs.Memory.Regions
import MicroDevice.Proofs.Memory.Words

/-! # Overlapping regions

Two regions with addresses overlap just if they share an address other than the greatest
(`MemoryRegion.overlaps_iff`): where a region ends past the top, its end is taken to be the
greatest address, which is then left out. The overlapping pairs of a layout are those pairs,
each once and in canonical order (`MemoryLayout.mem_overlappingPairs`,
`MemoryLayout.pairwise_overlappingPairs`).
-/

namespace MicroDevice

namespace MemoryRegion

/-- The addresses of a region with a base: as many as its size from the base on, as far as there
are addresses. -/
def Occupies (region : MemoryRegion) (address : UInt64) : Prop :=
  ∃ base, region.base = some base ∧ base ≤ address ∧
    address.toNat < base.toNat + region.size.toNat

/-- Two regions share an address other than the greatest. -/
def ShareBelowTop (first second : MemoryRegion) : Prop :=
  ∃ address, address ≠ Word.top ∧ first.Occupies address ∧ second.Occupies address

theorem ShareBelowTop.symm {first second : MemoryRegion} (shared : first.ShareBelowTop second) :
    second.ShareBelowTop first := by
  obtain ⟨address, below, occupies, alsoOccupies⟩ := shared
  exact ⟨address, below, alsoOccupies, occupies⟩

/-- A placed region occupies the addresses from its base up to its base plus its size, counted
without wrap-around. -/
theorem occupies_iff {region : MemoryRegion} {base : UInt64} (based : region.base = some base)
    (address : UInt64) : region.Occupies address ↔
      base.toNat ≤ address.toNat ∧ address.toNat < base.toNat + region.size.toNat := by
  constructor
  · rintro ⟨held, same, from_base, before_end⟩
    cases based.symm.trans same
    exact ⟨UInt64.le_iff_toNat_le.mp from_base, before_end⟩
  · rintro ⟨from_base, before_end⟩
    exact ⟨base, based, UInt64.le_iff_toNat_le.mpr from_base, before_end⟩

/-- A region without a base occupies no address. -/
theorem not_occupies {region : MemoryRegion} (unplaced : region.base = none) (address : UInt64) :
    ¬ region.Occupies address := by
  rintro ⟨base, based, -⟩
  cases unplaced.symm.trans based

/-- A region that begins at the greatest address has no other. -/
theorem not_shareBelowTop {first : MemoryRegion} (based : first.base = some Word.top)
    (second : MemoryRegion) : ¬ first.ShareBelowTop second := by
  rintro ⟨address, below, occupies, -⟩
  have from_top := ((occupies_iff based address).mp occupies).1
  exact below (UInt64.toNat_inj.mp (Nat.le_antisymm (Word.toNat_le_top address) from_top))

/-- Of two placed regions the overlap test compares each base with the other's end, cut off at the
top address. -/
theorem overlaps_of_bases {first second : MemoryRegion} {firstBase secondBase : UInt64}
    (based : first.base = some firstBase) (alsoBased : second.base = some secondBase) :
    first.overlaps second = true ↔
      firstBase.toNat < min (secondBase.toNat + second.size.toNat) Word.top.toNat ∧
        secondBase.toNat < min (firstBase.toNat + first.size.toNat) Word.top.toNat := by
  simp only [overlaps, limit?, based, alsoBased, Option.map_some, Bool.and_eq_true,
    decide_eq_true_eq, UInt64.lt_iff_toNat_lt, Word.toNat_addSaturating]

/-- Non-empty regions are reported as overlapping exactly when they share an address below the
top. -/
theorem overlaps_iff {first second : MemoryRegion} (filled : 0 < first.size)
    (alsoFilled : 0 < second.size) :
    first.overlaps second = true ↔ first.ShareBelowTop second := by
  rw [UInt64.lt_iff_toNat_lt, UInt64.toNat_zero] at filled alsoFilled
  rcases based : first.base with _ | firstBase
  · refine iff_of_false (by simp [overlaps, based]) ?_
    rintro ⟨address, -, occupies, -⟩
    exact not_occupies based address occupies
  · rcases alsoBased : second.base with _ | secondBase
    · refine iff_of_false (by simp [overlaps, alsoBased]) ?_
      rintro ⟨address, -, -, occupies⟩
      exact not_occupies alsoBased address occupies
    · rw [overlaps_of_bases based alsoBased]
      constructor
      · rintro ⟨before, after⟩
        -- the later of the two bases is shared
        rcases Nat.le_total firstBase.toNat secondBase.toNat with le | le
        · refine ⟨secondBase, ?_, ?_, ?_⟩
          · rintro rfl
            omega
          · rw [occupies_iff based]
            omega
          · rw [occupies_iff alsoBased]
            omega
        · refine ⟨firstBase, ?_, ?_, ?_⟩
          · rintro rfl
            omega
          · rw [occupies_iff based]
            omega
          · rw [occupies_iff alsoBased]
            omega
      · rintro ⟨address, below, occupies, alsoOccupies⟩
        rw [occupies_iff based] at occupies
        rw [occupies_iff alsoBased] at alsoOccupies
        have le_top := Word.toNat_le_top address
        have ne_top : address.toNat ≠ Word.top.toNat := fun same =>
          below (UInt64.toNat_inj.mp same)
        omega

end MemoryRegion

namespace MemoryLayout

/-- The canonical order of pairs: by the first region, then by the second. -/
def PairBefore (first second : MemoryRegion × MemoryRegion) : Prop :=
  first.1.kind.index < second.1.kind.index ∨
    first.1 = second.1 ∧ first.2.kind.index < second.2.kind.index

/-- The pairs reported among regions listed by kind are the overlapping pairs, the earlier kind
first. -/
theorem mem_overlapsAmong {regions : List MemoryRegion} {first second : MemoryRegion}
    (ordered : regions.Pairwise fun first second => first.kind.index < second.kind.index) :
    (first, second) ∈ overlapsAmong regions ↔
      first ∈ regions ∧ second ∈ regions ∧ first.kind.index < second.kind.index ∧
        first.overlaps second = true := by
  induction regions with
  | nil => simp [overlapsAmong]
  | cons region later ih =>
      obtain ⟨before, ordered⟩ := List.pairwise_cons.mp ordered
      rw [overlapsAmong, List.mem_append, ih ordered]
      constructor
      · rintro (member | ⟨member, alsoMember, less, overlap⟩)
        · obtain ⟨other, found, same⟩ := List.mem_map.mp member
          cases same
          obtain ⟨isLater, overlap⟩ := List.mem_filter.mp found
          exact ⟨List.mem_cons_self, List.mem_cons_of_mem _ isLater, before _ isLater, overlap⟩
        · exact ⟨List.mem_cons_of_mem _ member, List.mem_cons_of_mem _ alsoMember, less, overlap⟩
      · rintro ⟨member, alsoMember, less, overlap⟩
        rcases List.mem_cons.mp alsoMember with rfl | isLater
        · rcases List.mem_cons.mp member with rfl | earlier
          · exact absurd less (Nat.lt_irrefl _)
          · exact absurd less (Nat.lt_asymm (before _ earlier))
        · rcases List.mem_cons.mp member with rfl | earlier
          · exact .inl (List.mem_map.mpr ⟨second, List.mem_filter.mpr ⟨isLater, overlap⟩, rfl⟩)
          · exact .inr ⟨earlier, isLater, less, overlap⟩

/-- Pairs are reported in the order of their kinds. -/
theorem pairwise_overlapsAmong {regions : List MemoryRegion}
    (ordered : regions.Pairwise fun first second => first.kind.index < second.kind.index) :
    (overlapsAmong regions).Pairwise PairBefore := by
  induction regions with
  | nil => exact .nil
  | cons region later ih =>
      obtain ⟨before, tail⟩ := List.pairwise_cons.mp ordered
      rw [overlapsAmong, List.pairwise_append]
      refine ⟨?_, ih tail, ?_⟩
      · apply List.pairwise_map.mpr
        exact (tail.filter _).imp fun less => .inr ⟨rfl, less⟩
      · intro pair member other otherMember
        obtain ⟨second, -, rfl⟩ := List.mem_map.mp member
        obtain ⟨isLater, -⟩ := (mem_overlapsAmong tail).mp otherMember
        exact .inl (before _ isLater)

/-- A layout reports its overlapping pairs in the order of their kinds. -/
theorem pairwise_overlappingPairs (layout : MemoryLayout) :
    layout.overlappingPairs.Pairwise PairBefore :=
  pairwise_overlapsAmong layout.pairwise_regions

/-- A layout without empty regions reports a pair exactly when its regions share an address below
the top. -/
theorem mem_overlappingPairs {layout : MemoryLayout}
    (filled : ∀ region ∈ layout.regions, 0 < region.size) {first second : MemoryRegion} :
    (first, second) ∈ layout.overlappingPairs ↔
      first ∈ layout.regions ∧ second ∈ layout.regions ∧
        first.kind.index < second.kind.index ∧ first.ShareBelowTop second := by
  rw [overlappingPairs, mem_overlapsAmong layout.pairwise_regions]
  constructor
  · rintro ⟨member, alsoMember, less, overlap⟩
    have shared := (MemoryRegion.overlaps_iff (filled _ member) (filled _ alsoMember)).mp overlap
    exact ⟨member, alsoMember, less, shared⟩
  · rintro ⟨member, alsoMember, less, shared⟩
    have overlap := (MemoryRegion.overlaps_iff (filled _ member) (filled _ alsoMember)).mpr shared
    exact ⟨member, alsoMember, less, overlap⟩

end MemoryLayout

end MicroDevice
