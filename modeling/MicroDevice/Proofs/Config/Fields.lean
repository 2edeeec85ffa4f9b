import MicroDevice.Config.Record
import MicroDevice.Proofs.Data.Records

/-! # Configurations as data

The fields of a configuration as data (`DeviceConfig.fieldData`), and how they are read back:
a region gives its extent, a layout is put together from its regions, and the fields of a
configuration in any of the two orders in which they are written give the configuration
(`DeviceConfig.read_fieldData`).
-/

namespace MicroDevice

namespace Extent

/-- The reader of an extent knows each of its fields by name and keeps them apart. -/
theorem lawful_reader (surplus : Surplus) : (reader surplus).Lawful where
  field?_name field := by cases field <;> rfl
  holds_blank field := by cases field <;> rfl
  holds_put {draft later field value} put other := by
    cases field <;> obtain ⟨read, -, rfl⟩ := RecordReader.stored_ok put <;> cases other <;> rfl
  put_comm {draft middle later field other value datum} differs first second := by
    cases field <;> cases other <;> first
      | exact absurd rfl differs
      | obtain ⟨read, reads, rfl⟩ := RecordReader.stored_ok first
        obtain ⟨also, alsoReads, rfl⟩ := RecordReader.stored_ok second
        exact ⟨_, by simp only [reader, Draft.put, alsoReads]; rfl,
          by simp only [reader, Draft.put, reads]; rfl⟩

end Extent

namespace MemoryRegion

/-- The fields of a region, of which the address may be left out. -/
def fieldData (region : MemoryRegion) : List (Extent.Field × Datum) :=
  (match region.base with
    | some base => [(.start, .integer base.toNat)]
    | none => []) ++ [(.size, .integer region.size.toNat)]

/-- A region as a datum. -/
def datum (region : MemoryRegion) : Datum :=
  .mapping (region.fieldData.map fun entry => (some entry.1.name, entry.2))

/-- A draft with a field of a region. -/
def fill (region : MemoryRegion) (draft : Extent.Draft) : Extent.Field → Extent.Draft
  | .start => { draft with start := some region.base }
  | .size => { draft with size := some region.size }

/-- The data of a region's fields fill a draft with that region. -/
theorem put_fieldData (surplus : Surplus) (region : MemoryRegion) :
    ∀ entry ∈ region.fieldData, ∀ draft,
      (Extent.reader surplus).put draft entry.1 entry.2 = .ok (region.fill draft entry.1) := by
  intro entry member draft
  obtain ⟨kind, base, size⟩ := region
  have sizeRead := Datum.word64_toNat size
  cases base with
  | none =>
      rw [List.mem_singleton.mp member]
      -- from here on only what is read of a number matters
      generalize Datum.integer size.toNat = datum at sizeRead ⊢
      exact RecordReader.ok_stored sizeRead fun size => { draft with size := some size }
  | some base =>
      have baseRead := Datum.nullable_word64_toNat base
      rcases List.mem_cons.mp member with same | later
      · rw [same]
        generalize Datum.integer base.toNat = datum at baseRead ⊢
        exact RecordReader.ok_stored baseRead fun start => { draft with start := some start }
      · rw [List.mem_singleton.mp later]
        generalize Datum.integer size.toNat = datum at sizeRead ⊢
        exact RecordReader.ok_stored sizeRead fun size => { draft with size := some size }

/-- A region is read as its extent. -/
theorem read_datum (surplus : Surplus) (region : MemoryRegion) :
    (Extent.reader surplus).read region.datum = .ok ⟨region.base, region.size⟩ := by
  apply RecordReader.read_named (Extent.lawful_reader surplus) (List.Perm.refl _) _
    (RecordReader.putAll_fill (region.put_fieldData surplus) _)
  · obtain ⟨kind, base, size⟩ := region
    cases base <;> rfl
  · obtain ⟨kind, base, size⟩ := region
    cases base <;> simp [fieldData]

end MemoryRegion

namespace MemoryLayout

/-- A layout as a datum, with its regions in canonical order. -/
def datum (layout : MemoryLayout) : Datum :=
  .mapping (layout.regions.map fun region => (some region.kind.name, region.datum))

/-- The layout with a region in the place of the one of its kind. -/
def insertRegion (layout : MemoryLayout) (region : MemoryRegion) : MemoryLayout :=
  layout.insert region.kind region.base region.size

/-- The entry of a region inserts it into the layout. -/
theorem putEntry_region (surplus : Surplus) (layout : MemoryLayout) (region : MemoryRegion) :
    putEntry surplus layout (some region.kind.name, region.datum) =
      .ok (layout.insertRegion region) := by
  have known : RegionKind.ofName? region.kind.name = some region.kind := by
    cases region.kind <;> rfl
  simp [putEntry, known, region.read_datum, insertRegion, bind, Except.bind, pure, Except.pure]

/-- The entries of regions insert them one after another. -/
theorem foldlM_putEntry (surplus : Surplus) (regions : List MemoryRegion)
    (layout : MemoryLayout) :
    (regions.map fun region => (some region.kind.name, region.datum)).foldlM
        (putEntry surplus) layout =
      .ok (regions.foldl insertRegion layout) := by
  induction regions generalizing layout with
  | nil => rfl
  | cons region later ih =>
      rw [List.map_cons, List.foldlM_cons, putEntry_region]
      exact ih _

/-- Inserting the regions of some kinds of a layout replaces what is held for these kinds. -/
theorem extent?_foldl (layout grown : MemoryLayout) (kinds : List RegionKind)
    (kind : RegionKind) :
    ((kinds.filterMap layout.region?).foldl insertRegion grown).extent? kind =
      if kind ∈ kinds ∧ (layout.extent? kind).isSome then layout.extent? kind
      else grown.extent? kind := by
  induction kinds generalizing grown with
  | nil => simp
  | cons first later ih =>
      rcases held : layout.extent? first with _ | extent
      · rw [List.filterMap_cons_none (by simp [region?, held]), ih]
        by_cases same : kind = first
        · subst same
          simp [held]
        · simp [same]
      · have present : layout.region? first = some ⟨first, extent.start, extent.size⟩ := by
          simp [region?, held]
        rw [List.filterMap_cons_some present, List.foldl_cons, ih]
        by_cases same : kind = first
        · subst same
          simp [held, insertRegion, insert]
        · simp [same, insertRegion, insert]

/-- A layout is what its regions make. -/
theorem foldl_regions (layout : MemoryLayout) :
    layout.regions.foldl insertRegion empty = layout := by
  apply ext_extent
  intro kind
  rw [regions, extent?_foldl]
  rcases held : layout.extent? kind with _ | extent
  · simp [empty]
  · simp [RegionKind.mem_all]

/-- A layout is read from its regions. -/
theorem ofDatum_datum (surplus : Surplus) (layout : MemoryLayout) :
    ofDatum surplus layout.datum = .ok layout := by
  rw [datum, ofDatum, foldlM_putEntry, foldl_regions]

end MemoryLayout

namespace DeviceConfig

/-- The reader of a configuration knows each of its fields by name and keeps them apart. -/
theorem lawful_reader (surplus : Surplus) : (reader surplus).Lawful where
  field?_name field := by cases field <;> rfl
  holds_blank field := by cases field <;> rfl
  holds_put {draft later field value} put other := by
    cases field <;> obtain ⟨read, -, rfl⟩ := RecordReader.stored_ok put <;> cases other <;> rfl
  put_comm {draft middle later field other value datum} differs first second := by
    cases field <;> cases other <;> first
      | exact absurd rfl differs
      | obtain ⟨read, reads, rfl⟩ := RecordReader.stored_ok first
        obtain ⟨also, alsoReads, rfl⟩ := RecordReader.stored_ok second
        exact ⟨_, by simp only [reader, Draft.put, alsoReads]; rfl,
          by simp only [reader, Draft.put, reads]; rfl⟩

/-- The fields of a configuration, of which the endpoint may be left out. -/
def fieldData (config : DeviceConfig) : List (Field × Datum) :=
  [(.deviceId, .string config.deviceId), (.toolchainPrefix, .string config.toolchainPrefix),
    (.memLayout, config.memLayout.datum), (.wordSize, .integer config.wordSize.toNat),
    (.thumbMode, .boolean config.thumbMode), (.commsMethod, .string config.commsMethod)] ++
  (match config.serverAddr with
    | some address => [(.serverAddr, .string address)]
    | none => []) ++
  (match config.serverPort with
    | some port => [(.serverPort, .integer port.toNat)]
    | none => [])

/-- A draft with a field of a configuration. -/
def fill (config : DeviceConfig) (draft : Draft) : Field → Draft
  | .deviceId => { draft with deviceId := some config.deviceId }
  | .toolchainPrefix => { draft with toolchainPrefix := some config.toolchainPrefix }
  | .memLayout => { draft with memLayout := some config.memLayout }
  | .wordSize => { draft with wordSize := some config.wordSize }
  | .thumbMode => { draft with thumbMode := some config.thumbMode }
  | .commsMethod => { draft with commsMethod := some config.commsMethod }
  | .serverAddr => { draft with serverAddr := some config.serverAddr }
  | .serverPort => { draft with serverPort := some config.serverPort }

/-- The data of a configuration's fields fill a draft with that configuration. -/
theorem put_fieldData (surplus : Surplus) (config : DeviceConfig) :
    ∀ entry ∈ config.fieldData, ∀ draft,
      (reader surplus).put draft entry.1 entry.2 = .ok (config.fill draft entry.1) := by
  intro entry member draft
  obtain ⟨deviceId, toolchainPrefix, layout, wordSize, thumbMode, method, address, port⟩ := config
  rcases List.mem_append.mp member with member | ofPort
  · rcases List.mem_append.mp member with plain | ofAddress
    · simp only [List.mem_cons, List.not_mem_nil, or_false] at plain
      have sizeRead := Datum.word32_toNat wordSize
      rcases plain with rfl | rfl | rfl | rfl | rfl | rfl
      · rfl
      · rfl
      · exact RecordReader.ok_stored (MemoryLayout.ofDatum_datum surplus layout)
          fun layout => { draft with memLayout := some layout }
      · generalize Datum.integer wordSize.toNat = datum at sizeRead ⊢
        exact RecordReader.ok_stored sizeRead fun size => { draft with wordSize := some size }
      · rfl
      · rfl
    · cases address with
      | none => cases ofAddress
      | some address =>
          rw [List.mem_singleton.mp ofAddress]
          rfl
  · cases port with
    | none => cases ofPort
    | some port =>
        have portRead := Datum.nullable_word16_toNat port
        rw [List.mem_singleton.mp ofPort]
        generalize Datum.integer port.toNat = datum at portRead ⊢
        exact RecordReader.ok_stored portRead fun port => { draft with serverPort := some port }

theorem nodup_fieldData (config : DeviceConfig) : (config.fieldData.map Prod.fst).Nodup := by
  obtain ⟨deviceId, toolchainPrefix, layout, wordSize, thumbMode, method, address, port⟩ := config
  cases address <;> cases port <;> simp [fieldData]

/-- The fields of a configuration, in any order, are read as the configuration. -/
theorem read_fieldData (surplus : Surplus) (config : DeviceConfig)
    {data : List (Field × Datum)} (perm : config.fieldData.Perm data) :
    (reader surplus).read (.mapping ((reader surplus).named data)) = .ok config := by
  apply RecordReader.read_named (lawful_reader surplus) perm config.nodup_fieldData
    (RecordReader.putAll_fill (config.put_fieldData surplus) _)
  obtain ⟨deviceId, toolchainPrefix, layout, wordSize, thumbMode, method, address, port⟩ := config
  cases address <;> cases port <;> rfl

end DeviceConfig

end MicroDevice
