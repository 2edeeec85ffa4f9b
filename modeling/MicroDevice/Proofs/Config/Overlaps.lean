import MicroDevice.Config.Validation
import MicroDevice.Proofs.Build.Failures
import MicroDevice.Proofs.Memory.Overlap

/-! # What is said of overlapping regions

Validation warns of the overlapping pairs of a layout, and a toolchain refuses to build for a
layout that has any. Both leave out the pairs of regions that share the greatest address and no
other (`MemoryLayout.overlaps_reported_below_top`).
-/

namespace MicroDevice

/-- A check that fails raises an error, never a warning. -/
theorem Issue.warnings_ofResult {Answer : Type} (result : Except ConfigError Answer) :
    (ofResult result).filter (fun issue => issue.severity = .warning) = [] := by
  cases result <;> rfl

/-- Validation warns of nothing but the pairs that overlap. -/
theorem DeviceConfig.warnings_eq (config : DeviceConfig) :
    config.issues.filter (fun issue => issue.severity = .warning) =
      config.memLayout.overlappingPairs.map Issue.ofOverlap := by
  have named : (if Text.trim config.deviceId = "" then
      [(⟨.error, "device_id is empty"⟩ : Issue)] else []).filter
        (fun issue => issue.severity = .warning) = [] := by
    split <;> rfl
  have required : (RegionKind.all.flatMap fun kind =>
      Issue.ofResult (config.memLayout.require kind)).filter
        (fun issue => issue.severity = .warning) = [] := by
    rw [List.filter_flatMap]
    apply List.flatMap_eq_nil_iff.mpr
    intro kind _
    exact Issue.warnings_ofResult _
  have overlaps : (config.memLayout.overlappingPairs.map Issue.ofOverlap).filter
      (fun issue => issue.severity = .warning) =
        config.memLayout.overlappingPairs.map Issue.ofOverlap := by
    apply List.filter_eq_self.mpr
    intro issue member
    obtain ⟨pair, -, rfl⟩ := List.mem_map.mp member
    rfl
  simp only [issues, List.filter_append, named, required, overlaps, Issue.warnings_ofResult,
    List.nil_append]

namespace MemoryLayout

/-- A layout without empty regions reports overlaps exactly when two regions of different kinds
share an address below the top. -/
theorem overlappingPairs_ne_nil_iff {layout : MemoryLayout}
    (filled : ∀ region ∈ layout.regions, 0 < region.size) :
    layout.overlappingPairs ≠ [] ↔ ∃ first ∈ layout.regions, ∃ second ∈ layout.regions,
      first.kind ≠ second.kind ∧ first.ShareBelowTop second := by
  constructor
  · intro some
    obtain ⟨⟨first, second⟩, member⟩ := List.exists_mem_of_ne_nil _ some
    obtain ⟨isFirst, isSecond, less, shared⟩ := (mem_overlappingPairs filled).mp member
    refine ⟨first, isFirst, second, isSecond, ?_, shared⟩
    intro same
    exact Nat.lt_irrefl _ (same ▸ less)
  · rintro ⟨first, isFirst, second, isSecond, apart, shared⟩
    have distinct : first.kind.index ≠ second.kind.index := by
      intro same
      exact apart (RegionKind.index_injective same)
    rcases Nat.lt_or_gt_of_ne distinct with less | greater
    · exact List.ne_nil_of_mem ((mem_overlappingPairs filled).mpr
        ⟨isFirst, isSecond, less, shared⟩)
    · exact List.ne_nil_of_mem ((mem_overlappingPairs filled).mpr
        ⟨isSecond, isFirst, greater, shared.symm⟩)

/-- The overlapping pairs of a layout whose regions are not empty are those that share an address
other than the greatest, each once and in canonical order. A toolchain refuses the layout just if
there is such a pair, and validation warns of just these pairs. -/
theorem overlaps_reported_below_top {layout : MemoryLayout}
    (filled : ∀ region ∈ layout.regions, 0 < region.size) :
    layout.overlappingPairs.Pairwise PairBefore ∧
    (∀ first second, (first, second) ∈ layout.overlappingPairs ↔
      first ∈ layout.regions ∧ second ∈ layout.regions ∧
        first.kind.index < second.kind.index ∧ first.ShareBelowTop second) ∧
    (∀ (family : ToolchainFamily) (host : Host) (job : CompileJob) (workshop : Workshop),
      job.options.layout = some layout →
      family.checkWordSize job.options.wordSize = .ok () →
        ((∃ deviceId fault later, (family.compile host job).run workshop =
            (.error (.layout deviceId fault), later)) ↔
          ∃ first ∈ layout.regions, ∃ second ∈ layout.regions,
            first.kind ≠ second.kind ∧ first.ShareBelowTop second)) ∧
    ∀ config : DeviceConfig, config.memLayout = layout →
      config.issues.filter (fun issue => issue.severity = .warning) =
        layout.overlappingPairs.map Issue.ofOverlap := by
  refine ⟨layout.pairwise_overlappingPairs, fun _ _ => mem_overlappingPairs filled, ?_, ?_⟩
  · intro family host job workshop laid sized
    rw [family.compile_refuses_layout_iff host laid sized]
    exact overlappingPairs_ne_nil_iff filled
  · rintro config rfl
    exact config.warnings_eq

/-- Two regions of one byte at the greatest address share it. They are not reported: a job with this
layout is not refused for it, and there is no warning. -/
theorem top_address_shared_unreported :
    let layout := (empty.insert .text (some Word.top) 1).insert .rodata (some Word.top) 1
    let text : MemoryRegion := ⟨.text, some Word.top, 1⟩
    let rodata : MemoryRegion := ⟨.rodata, some Word.top, 1⟩
    let options := { CompileOptions.unset with layout := some layout }
    let config := { (default : DeviceConfig) with memLayout := layout }
    layout.regions = [text, rodata] ∧ text.Occupies Word.top ∧ rodata.Occupies Word.top ∧
      (text, rodata) ∉ layout.overlappingPairs ∧
      (∀ workshop, ¬ ∃ deviceId fault later,
        (ToolchainFamily.host.compile .current ⟨⟨"out.obj"⟩, ⟨"in.c"⟩, .runtime, options⟩).run
          workshop = (.error (.layout deviceId fault), later)) ∧
      config.issues.filter (fun issue => issue.severity = .warning) = [] := by
  intro layout text rodata options config
  have regions_eq : layout.regions = [text, rodata] := by decide
  have filled : ∀ region ∈ layout.regions, 0 < region.size := by
    rw [regions_eq]
    decide
  obtain ⟨-, mem_pairs, refused_iff, warnings_eq⟩ := overlaps_reported_below_top filled
  refine ⟨regions_eq, ?_, ?_, ?_, ?_, ?_⟩
  · rw [MemoryRegion.occupies_iff rfl]
    decide
  · rw [MemoryRegion.occupies_iff rfl]
    decide
  · rw [mem_pairs]
    rintro ⟨-, -, -, shared⟩
    exact MemoryRegion.not_shareBelowTop rfl rodata shared
  · intro workshop
    rw [refused_iff .host .current _ workshop rfl rfl]
    rintro ⟨first, member, second, -, -, shared⟩
    rw [regions_eq, List.mem_pair] at member
    rcases member with rfl | rfl <;> exact MemoryRegion.not_shareBelowTop rfl second shared
  · rw [warnings_eq config rfl]
    decide

end MemoryLayout

end MicroDevice
