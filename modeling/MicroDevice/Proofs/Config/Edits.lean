import Mathlib.Data.List.Induction
import MicroDevice.Proofs.Config.JsonText
import MicroDevice.Proofs.Config.TomlText
import MicroDevice.Proofs.Memory.Regions

/-! # Layouts as they are edited

A layout is made by inserting and erasing regions. Its regions are those that stand: inserted, and
not followed by an edit of their kind (`MemoryLayout.mem_regions_editAll`). They tell all that the
layout answers, and the texts of a configuration that has it, so that edits which leave the same
regions are not told apart (`MemoryLayout.editAll_by_standing`).
-/

namespace MicroDevice

/-- An edit of a layout. -/
inductive LayoutEdit where
  | insert (region : MemoryRegion)
  | erase (kind : RegionKind)

namespace LayoutEdit

/-- The kind of region that is edited. -/
def kind : LayoutEdit → RegionKind
  | insert region => region.kind
  | erase kind => kind

@[simp] theorem kind_insert (region : MemoryRegion) : (insert region).kind = region.kind := rfl

@[simp] theorem kind_erase (kind : RegionKind) : (erase kind).kind = kind := rfl

/-- The layout after an edit. -/
def apply (layout : MemoryLayout) : LayoutEdit → MemoryLayout
  | insert region => layout.insert region.kind region.base region.size
  | erase kind => layout.erase kind

/-- After an edit a region is the one that was inserted, or one of another kind. -/
theorem mem_regions_apply {layout : MemoryLayout} {edit : LayoutEdit} {region : MemoryRegion} :
    region ∈ (apply layout edit).regions ↔
      edit = .insert region ∨ edit.kind ≠ region.kind ∧ region ∈ layout.regions := by
  rw [MemoryLayout.mem_regions, MemoryLayout.mem_regions]
  by_cases same : edit.kind = region.kind
  · cases edit with
    | insert inserted =>
        obtain ⟨kind, start, size⟩ := inserted
        obtain ⟨other, base, count⟩ := region
        cases same
        simp [apply, MemoryLayout.insert]
    | erase kind =>
        cases same
        simp [apply, MemoryLayout.erase]
  · have untouched : (apply layout edit).extent? region.kind = layout.extent? region.kind := by
      cases edit <;> exact if_neg (Ne.symm same)
    have other : edit ≠ .insert region := fun equal => same (equal ▸ rfl)
    simp [untouched, same, other]

end LayoutEdit

namespace MemoryLayout

/-- The layout that some edits make of the empty one. -/
def editAll (edits : List LayoutEdit) : MemoryLayout :=
  edits.foldl LayoutEdit.apply empty

/-- A region stands after some edits: it was inserted, and its kind was not edited later. -/
def Stands (edits : List LayoutEdit) (region : MemoryRegion) : Prop :=
  ∃ earlier later, edits = earlier ++ .insert region :: later ∧
    ∀ edit ∈ later, edit.kind ≠ region.kind

/-- A region of the kind stands that is not empty. -/
def Filled (edits : List LayoutEdit) (kind : RegionKind) : Prop :=
  ∃ region, Stands edits region ∧ region.kind = kind ∧ 0 < region.size

/-- The same regions stand after some edits and after others. -/
def SameStanding (edits others : List LayoutEdit) : Prop :=
  ∀ region, Stands edits region ↔ Stands others region

/-! ## The regions that stand -/

variable {edits others : List LayoutEdit} {region : MemoryRegion} {kind : RegionKind}

theorem not_stands_nil : ¬ Stands [] region := by
  rintro ⟨earlier, later, split, -⟩
  exact absurd split.symm (List.append_ne_nil_of_right_ne_nil _ (List.cons_ne_nil _ _))

/-- What stands after one more edit is what it inserts, and what stood of other kinds. -/
theorem stands_concat {last : LayoutEdit} :
    Stands (edits ++ [last]) region ↔
      last = .insert region ∨ last.kind ≠ region.kind ∧ Stands edits region := by
  constructor
  · rintro ⟨earlier, later, split, untouched⟩
    rcases List.eq_nil_or_concat later with rfl | ⟨before, final, rfl⟩
    · exact .inl (List.singleton_inj.mp (List.append_inj' split rfl).2)
    · rw [List.concat_eq_append, ← List.cons_append, ← List.append_assoc] at split
      obtain ⟨rfl, same⟩ := List.append_inj' split rfl
      cases same
      rw [List.concat_eq_append] at untouched
      exact .inr ⟨untouched last (by simp), earlier, before, rfl,
        fun edit member => untouched edit (by simp [member])⟩
  · rintro (rfl | ⟨differs, earlier, later, rfl, untouched⟩)
    · exact ⟨edits, [], rfl, by simp⟩
    · refine ⟨earlier, later ++ [last], by simp, ?_⟩
      simp only [List.mem_append, List.mem_singleton]
      rintro edit (member | rfl)
      · exact untouched edit member
      · exact differs

/-- The regions of an edited layout are those that stand after the edits. -/
theorem mem_regions_editAll : region ∈ (editAll edits).regions ↔ Stands edits region := by
  -- the edit that counts is the last of its kind, so the induction takes edits off the end
  induction edits using List.reverseRecOn with
  | nil => exact iff_of_false (fun member => nomatch mem_regions.mp member) not_stands_nil
  | append_singleton earlier last ih =>
      rw [editAll, List.foldl_append, stands_concat, ← ih]
      exact LayoutEdit.mem_regions_apply

/-- An edited layout provides the kinds whose standing region is not empty. -/
theorem provides_editAll_iff : (editAll edits).provides kind = true ↔ Filled edits kind := by
  simp only [provides_iff, mem_regions_editAll, Filled]

/-- Two runs of edits give the same layout exactly when the same regions stand after them. -/
theorem editAll_eq_iff : editAll edits = editAll others ↔ SameStanding edits others := by
  simp only [SameStanding, ← mem_regions_editAll]
  exact ⟨fun same region => by rw [same], eq_of_mem_regions⟩

end MemoryLayout

/-! ## Texts -/

namespace DeviceConfig

/-- Configurations with the same JSON text are the same. -/
theorem toJson_inj {first second : DeviceConfig} :
    first.toJson = second.toJson ↔ first = second := by
  refine ⟨fun same => ?_, fun same => by rw [same]⟩
  have reads := first.ofJson_toJson
  rw [same, ofJson_toJson] at reads
  exact (Except.ok.inj reads).symm

/-- Configurations with the same TOML text are the same. -/
theorem eq_of_toToml {first second : DeviceConfig} {text : String}
    (written : first.toToml = .ok text) (also : second.toToml = .ok text) : first = second :=
  Except.ok.inj ((ofToml_toToml written).symm.trans (ofToml_toToml also))

/-- A configuration with another layout. -/
def withLayout (config : DeviceConfig) (layout : MemoryLayout) : DeviceConfig :=
  { config with memLayout := layout }

theorem withLayout_inj {config : DeviceConfig} {first second : MemoryLayout} :
    config.withLayout first = config.withLayout second ↔ first = second :=
  ⟨congrArg memLayout, congrArg config.withLayout⟩

end DeviceConfig

namespace MemoryLayout

/-- What a layout answers that was made by some edits. -/
structure Answers (layout : MemoryLayout) (edits : List LayoutEdit) : Prop where
  mem_regions (region : MemoryRegion) : region ∈ layout.regions ↔ Stands edits region
  inOrder : layout.regions.Pairwise fun first second => first.kind.index < second.kind.index
  sums (total : UInt64) : layout.totalSize = some total ↔
    total.toNat = (layout.regions.map fun region => region.size.toNat).sum
  overflows : layout.totalSize = none ↔
    2 ^ 64 ≤ (layout.regions.map fun region => region.size.toNat).sum
  provides (regions : List MemoryRegion) : layout.requireAll = .ok regions ↔
    (∀ kind, Filled edits kind) ∧ regions = layout.regions
  lacks (error : ConfigError) : layout.requireAll = .error error ↔
    ∃ kind, ¬ Filled edits kind ∧ (∀ other, other.index < kind.index → Filled edits other) ∧
      error = .missingRegion kind

/-- What a layout is asked is told by the regions that stand. -/
theorem answers_editAll (edits : List LayoutEdit) : Answers (editAll edits) edits where
  mem_regions _ := mem_regions_editAll
  inOrder := (editAll edits).pairwise_regions
  sums _ := totalSize_eq_some_iff
  overflows := totalSize_eq_none_iff
  provides regions := by simp only [requireAll_eq_ok_iff, provides_editAll_iff]
  lacks error := by simp only [requireAll_eq_error_iff, ← Bool.not_eq_true, provides_editAll_iff]

/-- Edits make a layout that answers by the regions that stand: it lists them in the order of their
kinds, sums their sizes if the sum is a word, and has all that is required just if one of each kind
stands that is not empty. Edits after which the same regions stand make the same layout, and a
configuration has the same texts with it. -/
theorem editAll_by_standing (edits : List LayoutEdit) :
    Answers (editAll edits) edits ∧
      ∀ others, (SameStanding edits others ↔ editAll edits = editAll others) ∧
        ∀ config : DeviceConfig,
          (SameStanding edits others ↔
            (config.withLayout (editAll edits)).toJson =
              (config.withLayout (editAll others)).toJson) ∧
          (SameStanding edits others →
            (config.withLayout (editAll edits)).toToml =
              (config.withLayout (editAll others)).toToml) ∧
          ∀ text, (config.withLayout (editAll edits)).toToml = .ok text →
            (config.withLayout (editAll others)).toToml = .ok text →
              SameStanding edits others := by
  refine ⟨answers_editAll edits, fun others => ⟨editAll_eq_iff.symm, fun config => ⟨?_, ?_, ?_⟩⟩⟩
  · rw [DeviceConfig.toJson_inj, DeviceConfig.withLayout_inj, editAll_eq_iff]
  · intro same
    rw [editAll_eq_iff.mpr same]
  · intro text written also
    exact editAll_eq_iff.mp
      (DeviceConfig.withLayout_inj.mp (DeviceConfig.eq_of_toToml written also))

/-- A heap that was inserted twice, and a stack that was erased, leave no trace in the texts. -/
theorem editAll_after_erasing :
    let edits : List LayoutEdit := [.insert ⟨.heap, none, 16⟩, .insert ⟨.stack, none, 64⟩,
      .insert ⟨.text, some 256, 32⟩, .insert ⟨.heap, some 512, 8⟩, .erase .stack]
    let others : List LayoutEdit := [.insert ⟨.text, some 256, 32⟩, .insert ⟨.heap, some 512, 8⟩]
    SameStanding edits others ∧ ∀ config : DeviceConfig,
      (config.withLayout (editAll edits)).toToml =
        (config.withLayout (editAll others)).toToml := by
  intro edits others
  obtain ⟨-, compares⟩ := editAll_by_standing edits
  have same : SameStanding edits others := (compares others).1.mpr (by decide)
  exact ⟨same, fun config => ((compares others).2 config).2.1 same⟩

end MemoryLayout

end MicroDevice
