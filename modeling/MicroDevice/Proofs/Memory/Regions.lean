import Mathlib.Data.List.Basic
import MicroDevice.Memory.Layout
import MicroDevice.Proofs.Memory.Words

/-! # The regions of a layout

A layout lists the regions that it holds in the order of their kinds, each once, so the list is
told by what the layout holds for each kind (`mem_regions`, `pairwise_regions`). If all regions are
required, the first kind that has none, or an empty one, is named (`mapM_require`).
-/

namespace MicroDevice

namespace RegionKind

theorem index_injective {first second : RegionKind} (same : first.index = second.index) :
    first = second :=
  (List.idxOf_inj first.mem_all).mp same

theorem nodup_all : all.Nodup := by
  decide

theorem pairwise_all : all.Pairwise fun first second => first.index < second.index := by
  decide

/-- The kinds before one of them are those with a smaller index. -/
theorem mem_before_iff {earlier later : List RegionKind} {kind other : RegionKind}
    (split : all = earlier ++ kind :: later) :
    other ∈ earlier ↔ other.index < kind.index := by
  have ordered := pairwise_all
  have listed := other.mem_all
  rw [split] at ordered listed
  rw [List.pairwise_append, List.pairwise_cons] at ordered
  obtain ⟨-, ⟨after, -⟩, before⟩ := ordered
  refine ⟨fun member => before other member kind List.mem_cons_self, fun less => ?_⟩
  rcases List.mem_append.mp listed with member | member
  · exact member
  rcases List.mem_cons.mp member with rfl | member
  · exact absurd less (Nat.lt_irrefl _)
  · exact absurd less (Nat.lt_asymm (after other member))

/-- The first kind of which something does not hold is the one with the smallest index. -/
theorem find?_all_eq_some_iff {holds : RegionKind → Bool} {kind : RegionKind} :
    (all.find? fun kind => !holds kind) = some kind ↔
      holds kind = false ∧ ∀ other, other.index < kind.index → holds other = true := by
  rw [List.find?_eq_some_iff_append]
  simp only [Bool.not_eq_true', Bool.not_not]
  refine and_congr_right fun _ => ⟨?_, fun first => ?_⟩
  · rintro ⟨earlier, later, split, before⟩ other less
    exact before other ((mem_before_iff split).mpr less)
  · obtain ⟨earlier, later, split⟩ := List.append_of_mem kind.mem_all
    exact ⟨earlier, later, split,
      fun other member => first other ((mem_before_iff split).mp member)⟩

end RegionKind

namespace MemoryLayout

/-- The regions of a layout are the extents it holds, each with its kind. -/
theorem mem_regions {layout : MemoryLayout} {region : MemoryRegion} :
    region ∈ layout.regions ↔
      layout.extent? region.kind = some ⟨region.base, region.size⟩ := by
  obtain ⟨kind, base, size⟩ := region
  constructor
  · intro member
    obtain ⟨held, -, found⟩ := List.mem_filterMap.mp member
    obtain ⟨extent, present, same⟩ := Option.map_eq_some_iff.mp found
    cases same
    exact present
  · intro present
    exact List.mem_filterMap.mpr ⟨kind, kind.mem_all, by simp [region?, present]⟩

/-- Layouts with the same regions are the same. -/
theorem eq_of_mem_regions {first second : MemoryLayout}
    (same : ∀ region, region ∈ first.regions ↔ region ∈ second.regions) : first = second := by
  apply ext_extent
  intro kind
  apply Option.ext
  rintro ⟨start, size⟩
  have held := same ⟨kind, start, size⟩
  rwa [mem_regions, mem_regions] at held

/-- The regions of some kinds are in the order of the kinds. -/
theorem sublist_kinds (layout : MemoryLayout) (kinds : List RegionKind) :
    ((kinds.filterMap layout.region?).map (·.kind)).Sublist kinds := by
  induction kinds with
  | nil => exact List.Sublist.refl _
  | cons kind later ih =>
      rcases held : layout.extent? kind with _ | extent
      · rw [List.filterMap_cons_none (by simp [region?, held])]
        exact ih.cons kind
      · have present : layout.region? kind = some ⟨kind, extent.start, extent.size⟩ := by
          simp [region?, held]
        rw [List.filterMap_cons_some present]
        exact ih.cons_cons kind

theorem nodup_kinds (layout : MemoryLayout) : (layout.regions.map (·.kind)).Nodup :=
  RegionKind.nodup_all.sublist (layout.sublist_kinds RegionKind.all)

theorem pairwise_regions (layout : MemoryLayout) :
    layout.regions.Pairwise fun first second => first.kind.index < second.kind.index := by
  have inOrder := RegionKind.pairwise_all.sublist (layout.sublist_kinds RegionKind.all)
  rwa [List.pairwise_map] at inOrder

/-! ## The sum of the sizes -/

/-- The total size is the sum of the sizes whenever that sum is a word. -/
theorem totalSize_eq_some_iff {layout : MemoryLayout} {total : UInt64} :
    layout.totalSize = some total ↔
      total.toNat = (layout.regions.map fun region => region.size.toNat).sum := by
  rw [totalSize, Word.sum?_eq_some_iff, List.map_map]
  rfl

/-- The total size is missing exactly when the sum of the sizes passes the largest word. -/
theorem totalSize_eq_none_iff {layout : MemoryLayout} :
    layout.totalSize = none ↔
      2 ^ 64 ≤ (layout.regions.map fun region => region.size.toNat).sum := by
  rw [totalSize, Word.sum?_eq_none_iff, List.map_map]
  rfl

/-! ## Regions that are required -/

/-- Whether a layout has a region that is not empty. -/
def provides (layout : MemoryLayout) (kind : RegionKind) : Bool :=
  (layout.extent? kind).any fun extent => 0 < extent.size

/-- A kind is provided when the layout has a non-empty region of it. -/
theorem provides_iff {layout : MemoryLayout} {kind : RegionKind} :
    layout.provides kind = true ↔
      ∃ region ∈ layout.regions, region.kind = kind ∧ 0 < region.size := by
  constructor
  · intro provides
    rcases held : layout.extent? kind with _ | ⟨start, size⟩
    · simp [MemoryLayout.provides, held] at provides
    · have filled : 0 < size := by simpa [MemoryLayout.provides, held] using provides
      exact ⟨⟨kind, start, size⟩, mem_regions.mpr held, rfl, filled⟩
  · rintro ⟨region, member, rfl, filled⟩
    simp [MemoryLayout.provides, mem_regions.mp member, filled]

/-- Requiring a provided kind gives the region of that kind. -/
theorem require_of_provides {layout : MemoryLayout} {kind : RegionKind}
    (provides : layout.provides kind = true) :
    ∃ region, layout.region? kind = some region ∧ layout.require kind = .ok region := by
  rcases held : layout.extent? kind with _ | extent
  · simp [MemoryLayout.provides, held] at provides
  · have filled : 0 < extent.size := by simpa [MemoryLayout.provides, held] using provides
    have present : layout.region? kind = some ⟨kind, extent.start, extent.size⟩ := by
      simp [region?, held]
    exact ⟨_, present, by simp [require, present, filled]⟩

/-- Requiring a kind that is not provided fails and names the kind. -/
theorem require_of_lacks {layout : MemoryLayout} {kind : RegionKind}
    (lacks : layout.provides kind = false) :
    layout.require kind = .error (.missingRegion kind) := by
  rcases held : layout.extent? kind with _ | extent
  · simp [require, region?, held]
  · have empty : ¬ 0 < extent.size := by simpa [provides, held] using lacks
    simp [require, region?, held, empty]

/-- Of the kinds that are required one after another, the first that is not provided is named. -/
theorem mapM_require (layout : MemoryLayout) (kinds : List RegionKind) :
    kinds.mapM layout.require =
      match kinds.find? fun kind => !layout.provides kind with
      | some kind => .error (.missingRegion kind)
      | none => .ok (kinds.filterMap layout.region?) := by
  induction kinds with
  | nil => rfl
  | cons kind later ih =>
      rw [List.mapM_cons]
      by_cases provides : layout.provides kind = true
      · obtain ⟨region, present, required⟩ := require_of_provides provides
        rw [required, ih, List.find?_cons_of_neg (by simp [provides]),
          List.filterMap_cons_some present]
        cases later.find? fun kind => !layout.provides kind <;> rfl
      · rw [Bool.not_eq_true] at provides
        rw [require_of_lacks provides, List.find?_cons_of_pos (by simp [provides])]
        rfl

/-- When all kinds are required successfully, the answer is the regions of the layout and every kind
is provided. -/
theorem requireAll_ok {layout : MemoryLayout} {regions : List MemoryRegion}
    (required : layout.requireAll = .ok regions) :
    regions = layout.regions ∧ ∀ kind, layout.provides kind = true := by
  rw [requireAll, mapM_require] at required
  rcases lacking : RegionKind.all.find? fun kind => !layout.provides kind with _ | kind <;>
    rw [lacking] at required
  · cases required
    refine ⟨rfl, fun kind => ?_⟩
    simpa using List.find?_eq_none.mp lacking kind kind.mem_all
  · cases required

/-- Requiring every kind succeeds exactly when every kind is provided, and then answers all
regions. -/
theorem requireAll_eq_ok_iff {layout : MemoryLayout} {regions : List MemoryRegion} :
    layout.requireAll = .ok regions ↔
      (∀ kind, layout.provides kind = true) ∧ regions = layout.regions := by
  refine ⟨fun required => (requireAll_ok required).symm, ?_⟩
  rintro ⟨provides, rfl⟩
  have nothing : (RegionKind.all.find? fun kind => !layout.provides kind) = none :=
    List.find?_eq_none.mpr fun kind _ => by simp [provides kind]
  rw [requireAll, mapM_require, nothing]
  rfl

/-- If a region is missing or empty, the first kind of such regions is named. -/
theorem requireAll_eq_error_iff {layout : MemoryLayout} {error : ConfigError} :
    layout.requireAll = .error error ↔
      ∃ kind, layout.provides kind = false ∧
        (∀ other, other.index < kind.index → layout.provides other = true) ∧
        error = .missingRegion kind := by
  simp only [← and_assoc, ← RegionKind.find?_all_eq_some_iff]
  rw [requireAll, mapM_require]
  rcases RegionKind.all.find? fun kind => !layout.provides kind with _ | kind
  · simp
  · simp [eq_comm]

end MemoryLayout

end MicroDevice
