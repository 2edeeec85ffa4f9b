import MicroDevice.Proofs.Config.JsonText
import MicroDevice.Proofs.Memory.Regions
import MicroDevice.Proofs.Toml.Statements
import MicroDevice.Proofs.Toml.Tables

/-! # Configurations in TOML texts

The TOML text of a configuration states the plain fields of the configuration and one table for
each region (`DeviceConfig.stated_toml`). Carried out, they build the tree of the fields, with
the layout as the last of them, so that the text is read as the configuration
(`DeviceConfig.ofToml_toToml`).
-/

namespace MicroDevice

open Toml

/-- The name of the table that holds the regions. -/
def MemoryLayout.tableName : String := DeviceConfig.Field.memLayout.name

/-- The names of region kinds need no quotes. -/
theorem RegionKind.isBare_name (kind : RegionKind) : IsBare kind.name := by
  cases kind <;> exact isBare_of_all rfl

theorem Extent.Field.isBare_name (field : Extent.Field) : IsBare field.name := by
  cases field <;> exact isBare_of_all rfl

theorem DeviceConfig.Field.isBare_name (field : DeviceConfig.Field) : IsBare field.name := by
  cases field <;> exact isBare_of_all rfl

/-- The end of a header ends its name. -/
theorem endsName_header (rest : List Char) : EndsName (']' :: rest) :=
  ⟨by rintro c ⟨⟩; rfl, by rintro c ⟨⟩; decide⟩

/-! ## Regions -/

namespace MemoryRegion

/-- The fields of a region by their names. -/
def fields (region : MemoryRegion) : List (String × Datum) :=
  region.fieldData.map fun entry => (entry.1.name, entry.2)

/-- The table of a region. -/
def entry (region : MemoryRegion) : String × Item :=
  (region.kind.name, .table .header (plainEntries region.fields))

/-- The header of a region, and its fields. -/
def steps (region : MemoryRegion) : List Statement :=
  .table ⟨[MemoryLayout.tableName], region.kind.name⟩ :: assignments region.fields

theorem datum_entry (region : MemoryRegion) : region.entry.2.datum = region.datum := by
  simp [entry, Item.datum, entriesData_plainEntries, fields, datum, Function.comp_def]

theorem nodup_fields (region : MemoryRegion) : (region.fields.map Prod.fst).Nodup := by
  obtain ⟨kind, base, size⟩ := region
  cases base <;> simp [fields, fieldData, Extent.Field.name]

/-- A region can be written when its base, if any, and its size are below the bound of signed
integers. -/
theorem fitsToml_iff (region : MemoryRegion) :
    region.fitsToml = true ↔
      (∀ base, region.base = some base → base.toNat < tomlBound) ∧
        region.size.toNat < tomlBound := by
  obtain ⟨kind, base, size⟩ := region
  rw [fitsToml, Bool.and_eq_true, decide_eq_true_eq, decide_eq_true_eq]
  cases base with
  | none =>
      have zero : (0 : UInt64).toNat < tomlBound := by decide
      exact and_congr_left fun _ => iff_of_true zero (by rintro base ⟨⟩)
  | some base =>
      apply and_congr_left
      intro _
      constructor
      · rintro fits _ ⟨⟩
        exact fits
      · exact fun fits => fits base rfl

/-- The lines of a region state its fields. -/
theorem lines_fields (region : MemoryRegion) (fits : region.fitsToml = true) :
    Lines
      ((match region.base with
        | some base => line "start" (Nat.toDigits 10 base.toNat)
        | none => []) ++ line "size" (Nat.toDigits 10 region.size.toNat))
      region.fields := by
  obtain ⟨baseFits, sizeFits⟩ := region.fitsToml_iff.mp fits
  obtain ⟨kind, base, size⟩ := region
  have ofSize := lines_line Extent.Field.size.isBare_name
    (shows_natural (Int.ofNat_lt.mpr sizeFits))
  cases base with
  | none => exact ofSize
  | some base =>
      have ofStart := lines_line Extent.Field.start.isBare_name
        (shows_natural (Int.ofNat_lt.mpr (baseFits base rfl)))
      exact ofStart.append ofSize

/-- The table of a region states its header and its fields. -/
theorem stated_tomlTable {region : MemoryRegion} (fits : region.fitsToml = true)
    {rest : List Char} {later : List Statement} (follows : Stated rest later) :
    Stated (region.tomlTable ++ rest) (region.steps ++ later) := by
  have tableBare : IsBare MemoryLayout.tableName := DeviceConfig.Field.memLayout.isBare_name
  have header (rest : List Char) :
      keyPath (("mem_layout." ++ region.kind.name).toList ++ ']' :: '\n' :: rest) =
        some (⟨[MemoryLayout.tableName], region.kind.name⟩, ']' :: '\n' :: rest) := by
    have key := keyPath_dot tableBare region.kind.isBare_name (endsName_header ('\n' :: rest))
    rw [String.toList_append]
    exact key
  have begins : ∀ c ∈ ("mem_layout." ++ region.kind.name).toList.head?, c ≠ '[' := by
    rw [String.toList_append]
    rintro c ⟨⟩
    decide
  have table := ((region.lines_fields fits).before follows).beginsTable begins (header _)
  rw [tomlTable, List.append_assoc, List.append_assoc]
  rw [List.append_assoc] at table
  exact table

end MemoryRegion

/-! ## Layouts -/

namespace MemoryLayout

/-- The steps that build the table of a layout. -/
def steps (layout : MemoryLayout) : List Statement :=
  if layout.regions = [] then [.table ⟨[], tableName⟩]
  else layout.regions.flatMap MemoryRegion.steps

/-- No two regions of a layout have one name. -/
theorem nodup_names (layout : MemoryLayout) :
    (layout.regions.map fun region => region.kind.name).Nodup := by
  have names := (layout.sublist_kinds RegionKind.all).map RegionKind.name
  rw [List.map_map] at names
  exact names.nodup (by decide)

/-- The tables of regions are read as their steps, region by region. -/
theorem stated_regions {regions : List MemoryRegion}
    (fit : ∀ region ∈ regions, region.fitsToml = true) :
    Stated (regions.flatMap MemoryRegion.tomlTable) (regions.flatMap MemoryRegion.steps) := by
  induction regions with
  | nil => exact stated_nil
  | cons region later ih =>
      apply MemoryRegion.stated_tomlTable (fit region List.mem_cons_self)
      exact ih fun other member => fit other (List.mem_cons_of_mem region member)

/-- The tables of a layout are read as its steps. -/
theorem stated_tomlTables {layout : MemoryLayout}
    (fit : ∀ region ∈ layout.regions, region.fitsToml = true) :
    Stated layout.tomlTables layout.steps := by
  unfold tomlTables steps
  split
  · have bare : IsBare tableName := DeviceConfig.Field.memLayout.isBare_name
    have begins : ∀ c ∈ tableName.toList.head?, c ≠ '[' := by
      rintro c ⟨⟩
      decide
    have table := stated_nil.beginsTable begins (keyPath_name bare (endsName_header _))
    rw [List.append_nil] at table
    exact table
  · exact stated_regions fit

/-- Once its header is carried out, a region is added as the last of its table. -/
theorem foldlM_region {entries inner : Entries} (fresh : tableName ∉ entries.map Prod.fst)
    {region : MemoryRegion} (unused : region.kind.name ∉ inner.map Prod.fst) {origin : Origin}
    {builder : Builder}
    (table : builder.perform (.table ⟨[tableName], region.kind.name⟩) =
      some ⟨[tableName, region.kind.name], entries ++
        [(tableName, .table origin (inner ++ [(region.kind.name, .table .header [])]))]⟩) :
    region.steps.foldlM Builder.perform builder =
      some ⟨[tableName, region.kind.name], entries ++
        [(tableName, .table origin (inner ++ [region.entry]))]⟩ := by
  rw [MemoryRegion.steps, List.foldlM_cons, table]
  apply foldlM_assignments (((reaches_here .header).last unused origin).last fresh .header)
    (by decide)
  exact region.nodup_fields

/-- The regions of a layout are added one after another to its table, which is the last one. -/
theorem foldlM_regions {entries : Entries} (fresh : tableName ∉ entries.map Prod.fst)
    {regions : List MemoryRegion} {inner : Entries}
    (distinct : (inner.map Prod.fst ++ regions.map fun region => region.kind.name).Nodup)
    (origin : Origin) (before : List String) :
    ∃ path, (regions.flatMap MemoryRegion.steps).foldlM Builder.perform
        ⟨before, entries ++ [(tableName, .table origin inner)]⟩ =
      some ⟨path, entries ++
        [(tableName, .table origin (inner ++ regions.map MemoryRegion.entry))]⟩ := by
  -- `inner` holds the tables of the regions so far, and the last header does not matter
  induction regions generalizing inner before with
  | nil => exact ⟨before, by simp⟩
  | cons region later ih =>
      have unused : region.kind.name ∉ inner.map Prod.fst := by
        intro member
        rw [List.nodup_append] at distinct
        exact distinct.2.2 _ member region.kind.name (by simp) rfl
      have grown : ((inner ++ [region.entry]).map Prod.fst ++
          later.map fun region => region.kind.name).Nodup := by
        simpa [MemoryRegion.entry] using distinct
      have first := foldlM_region fresh unused
        (perform_table ((reaches_here origin).last fresh .header) unused before)
      obtain ⟨path, rest⟩ := ih grown [tableName, region.kind.name]
      refine ⟨path, ?_⟩
      rw [List.append_assoc] at rest
      rw [List.flatMap_cons, List.foldlM_append, first]
      exact rest

/-- The table of a layout is built up as the last one. -/
theorem foldlM_steps (layout : MemoryLayout) {entries : Entries}
    (fresh : tableName ∉ entries.map Prod.fst) :
    ∃ path origin, layout.steps.foldlM Builder.perform ⟨[], entries⟩ =
      some ⟨path, entries ++
        [(tableName, .table origin (layout.regions.map MemoryRegion.entry))]⟩ := by
  have distinct := layout.nodup_names
  unfold steps
  split
  · rename_i noRegions
    have table := perform_table (reaches_here .header) fresh []
    refine ⟨[tableName], .header, ?_⟩
    rw [noRegions, List.foldlM_cons, table]
    rfl
  · rename_i someRegions
    obtain ⟨region, later, regions⟩ := List.exists_cons_of_ne_nil someRegions
    rw [regions] at distinct ⊢
    have unused : region.kind.name ∉ ([] : Entries).map Prod.fst := List.not_mem_nil
    have first := foldlM_region fresh unused
      (perform_table_passage fresh region.kind.name [])
    have others : (([] ++ [region.entry] : Entries).map Prod.fst ++
        later.map fun region => region.kind.name).Nodup := distinct
    obtain ⟨path, rest⟩ :=
      foldlM_regions fresh others .passage [tableName, region.kind.name]
    refine ⟨path, .passage, ?_⟩
    rw [List.flatMap_cons, List.foldlM_append, first]
    exact rest

/-- The data of the region tables pair each kind's name with the region's datum. -/
theorem entriesData_regions (regions : List MemoryRegion) :
    entriesData (regions.map MemoryRegion.entry) =
      regions.map fun region => (some region.kind.name, region.datum) := by
  induction regions with
  | nil => rfl
  | cons region later ih =>
      have first := region.datum_entry
      rw [List.map_cons, List.map_cons, MemoryRegion.entry, entriesData, ih]
      exact congrArg (fun datum => (some region.kind.name, datum) :: _) first

end MemoryLayout

/-! ## Configurations -/

namespace DeviceConfig

/-- The fields of a configuration other than its layout. -/
def plainData (config : DeviceConfig) : List (Field × Datum) :=
  [(.deviceId, .string config.deviceId), (.toolchainPrefix, .string config.toolchainPrefix),
    (.wordSize, .integer config.wordSize.toNat), (.thumbMode, .boolean config.thumbMode),
    (.commsMethod, .string config.commsMethod)] ++
  (match config.serverAddr with
    | some address => [(.serverAddr, .string address)]
    | none => []) ++
  (match config.serverPort with
    | some port => [(.serverPort, .integer port.toNat)]
    | none => [])

/-- The plain fields of a configuration by their names. -/
def plainFields (config : DeviceConfig) : List (String × Datum) :=
  config.plainData.map fun entry => (entry.1.name, entry.2)

/-- The plain fields and the layout together are all fields of a configuration. -/
theorem perm_plainData (config : DeviceConfig) :
    config.fieldData.Perm (config.plainData ++ [(.memLayout, config.memLayout.datum)]) := by
  have moved : ([(Field.memLayout, config.memLayout.datum)] ++ config.plainData.drop 2).Perm
      (config.plainData.drop 2 ++ [(Field.memLayout, config.memLayout.datum)]) :=
    List.perm_append_comm
  exact moved.append_left (config.plainData.take 2)

/-- No plain field has the name of another or of the layout. -/
theorem nodup_plainFields (config : DeviceConfig) :
    (config.plainFields.map Prod.fst ++ [MemoryLayout.tableName]).Nodup := by
  obtain ⟨deviceId, toolchainPrefix, layout, wordSize, thumbMode, method, address, port⟩ := config
  cases address <;> cases port <;>
    simp [plainFields, plainData, Field.name, MemoryLayout.tableName]

/-- The digits of a word of a configuration show the word. -/
theorem shows_word {value : Nat} (fits : value < 2 ^ 32) :
    Shows (Nat.toDigits 10 value) (.integer value) := by
  have wider : (2 ^ 32 : Nat) ≤ tomlBound := by decide
  exact shows_natural (Int.ofNat_lt.mpr (Nat.lt_of_lt_of_le fits wider))

/-- The lines of a configuration state its plain fields. -/
theorem lines_plainFields (config : DeviceConfig) : Lines config.tomlLines config.plainFields := by
  obtain ⟨deviceId, toolchainPrefix, layout, wordSize, thumbMode, method, address, port⟩ := config
  have required := ((((lines_line Field.deviceId.isBare_name (shows_string deviceId)).append
    (lines_line Field.toolchainPrefix.isBare_name (shows_string toolchainPrefix))).append
    (lines_line Field.wordSize.isBare_name (shows_word wordSize.toNat_lt))).append
    (lines_line Field.thumbMode.isBare_name (shows_boolean thumbMode))).append
    (lines_line Field.commsMethod.isBare_name (shows_string method))
  have ofAddress (address : String) :=
    lines_line Field.serverAddr.isBare_name (shows_string address)
  have ofPort (port : UInt16) : Lines (line "server_port" (Nat.toDigits 10 port.toNat)) _ :=
    lines_line Field.serverPort.isBare_name
      (shows_word (Nat.lt_trans port.toNat_lt (by decide)))
  cases address with
  | none =>
      cases port with
      | none => exact (required.append lines_nil).append lines_nil
      | some port => exact (required.append lines_nil).append (ofPort port)
  | some address =>
      cases port with
      | none => exact (required.append (ofAddress address)).append lines_nil
      | some port => exact (required.append (ofAddress address)).append (ofPort port)

/-- The text of a configuration states its fields and the tables of its layout. -/
theorem stated_toml (config : DeviceConfig)
    (fit : ∀ region ∈ config.memLayout.regions, region.fitsToml = true) :
    Stated (config.tomlLines ++ config.memLayout.tomlTables)
      (assignments config.plainFields ++ config.memLayout.steps) :=
  config.lines_plainFields.before (MemoryLayout.stated_tomlTables fit)

/-- Carried out, the steps of a configuration build its fields, with the layout at their end. -/
theorem foldlM_fields (config : DeviceConfig) :
    ∃ path origin, (assignments config.plainFields ++ config.memLayout.steps).foldlM
        Builder.perform ⟨[], []⟩ =
      some ⟨path, plainEntries config.plainFields ++ [(MemoryLayout.tableName,
        .table origin (config.memLayout.regions.map MemoryRegion.entry))]⟩ := by
  obtain ⟨distinct, -, apart⟩ := List.nodup_append.mp config.nodup_plainFields
  have fields : (assignments config.plainFields).foldlM Builder.perform ⟨[], []⟩ =
      some ⟨[], plainEntries config.plainFields⟩ := by
    apply foldlM_assignments (reaches_here .header) (by decide)
    exact distinct
  have fresh : MemoryLayout.tableName ∉ (plainEntries config.plainFields).map Prod.fst := by
    intro member
    rw [plainEntries, List.map_map] at member
    exact apart _ member _ (List.mem_singleton_self _) rfl
  obtain ⟨path, origin, tables⟩ := config.memLayout.foldlM_steps fresh
  refine ⟨path, origin, ?_⟩
  rw [List.foldlM_append, fields]
  exact tables

/-- The data of a table that holds a configuration's fields are those of the fields, under their
names. -/
theorem entriesData_fields (config : DeviceConfig) (origin : Origin) :
    entriesData (plainEntries config.plainFields ++ [(MemoryLayout.tableName,
        .table origin (config.memLayout.regions.map MemoryRegion.entry))]) =
      (reader .ignored).named (config.plainData ++ [(.memLayout, config.memLayout.datum)]) := by
  have layout := MemoryLayout.entriesData_regions config.memLayout.regions
  rw [entriesData_append, entriesData_plainEntries, RecordReader.named, List.map_append,
    plainFields, List.map_map, entriesData, Item.datum, layout]
  rfl

/-- The text of a configuration is read as its fields, with the layout at their end. -/
theorem read_toml (config : DeviceConfig)
    (fit : ∀ region ∈ config.memLayout.regions, region.fitsToml = true) :
    Toml.read (String.ofList (config.tomlLines ++ config.memLayout.tomlTables)) =
      some (.mapping ((reader .ignored).named
        (config.plainData ++ [(.memLayout, config.memLayout.datum)]))) := by
  have noMark (chars : List Char) :
      dropMark (config.tomlLines ++ chars) = config.tomlLines ++ chars := rfl
  obtain ⟨path, origin, built⟩ := config.foldlM_fields
  have stated := config.stated_toml fit _ (Nat.lt_succ_self _)
  rw [Toml.read, String.toList_ofList, noMark, stated, Option.bind_eq_bind, Option.bind_some, built,
    Option.bind_eq_bind, Option.bind_some, config.entriesData_fields]
  rfl

/-- A configuration is written exactly when every region of its layout can be, and the text is its
lines followed by its tables. -/
theorem toToml_eq_ok_iff {config : DeviceConfig} {text : String} :
    config.toToml = .ok text ↔
      (∀ region ∈ config.memLayout.regions, region.fitsToml = true) ∧
        text = String.ofList (config.tomlLines ++ config.memLayout.tomlTables) := by
  unfold toToml
  split
  · rename_i fit
    rw [List.all_eq_true] at fit
    exact ⟨fun written => ⟨fit, (Except.ok.inj written).symm⟩, fun written => by rw [written.2]⟩
  · rename_i unfit
    rw [List.all_eq_true] at unfit
    exact ⟨fun written => (by cases written), fun written => absurd written.1 unfit⟩

/-- A configuration that can be written is read back from its text. -/
theorem ofToml_toToml {config : DeviceConfig} {text : String} (written : config.toToml = .ok text) :
    ofToml text = .ok config := by
  obtain ⟨fit, rfl⟩ := toToml_eq_ok_iff.mp written
  have reads := config.read_fieldData .ignored config.perm_plainData
  rw [ofToml, config.read_toml fit, ofTomlDatum, reads]
  rfl

/-- A layout fits if each of its addresses and sizes is an integer with a sign of 64 bits. -/
theorem fitsToml_regions_iff (layout : MemoryLayout) :
    (∀ region ∈ layout.regions, region.fitsToml = true) ↔
      ∀ kind extent, layout.extent? kind = some extent →
        (∀ start, extent.start = some start → start.toNat ≤ 2 ^ 63 - 1) ∧
          extent.size.toNat ≤ 2 ^ 63 - 1 := by
  have bound (value : Nat) : value < tomlBound ↔ value ≤ 2 ^ 63 - 1 := by
    rw [tomlBound]
    omega
  constructor
  · intro fit kind extent present
    have region := fit ⟨kind, extent.start, extent.size⟩ (MemoryLayout.mem_regions.mpr present)
    obtain ⟨starts, size⟩ := (MemoryRegion.fitsToml_iff _).mp region
    exact ⟨fun start begins => (bound _).mp (starts start begins), (bound _).mp size⟩
  · intro small region member
    obtain ⟨starts, size⟩ := small _ _ (MemoryLayout.mem_regions.mp member)
    exact (MemoryRegion.fitsToml_iff _).mpr
      ⟨fun start begins => (bound _).mpr (starts start begins), (bound _).mpr size⟩

/-- A configuration has a TOML text just if its addresses and sizes are at most the greatest
integer with a sign. The text is read as the configuration, and a file with any extension but
`json` to which it was written is loaded as the configuration. -/
theorem toml_round_trip (config : DeviceConfig) :
    ((∃ text, config.toToml = .ok text) ↔
      ∀ kind extent, config.memLayout.extent? kind = some extent →
        (∀ start, extent.start = some start → start.toNat ≤ 2 ^ 63 - 1) ∧
          extent.size.toNat ≤ 2 ^ 63 - 1) ∧
    ∀ text, config.toToml = .ok text →
      ofToml text = .ok config ∧
        ∀ (files written : FileTree) (path : Path), path.extension? ≠ some "json" →
          files.write path (Text.encode text) = .ok written → load written path = .ok config := by
  constructor
  · rw [← fitsToml_regions_iff]
    constructor
    · rintro ⟨text, written⟩
      exact (toToml_eq_ok_iff.mp written).1
    · intro fit
      exact ⟨_, toToml_eq_ok_iff.mpr ⟨fit, rfl⟩⟩
  · intro text writes
    refine ⟨ofToml_toToml writes, ?_⟩
    intro files written path extension stored
    rw [load_write stored, ofText, if_neg extension]
    exact ofToml_toToml writes

end DeviceConfig

/-- A configuration that needs escapes and the greatest integer is loaded from a file without an
extension in a fresh tree. -/
theorem DeviceConfig.load_awkward_toml :
    let config := Simulation.awkwardConfig 0x7FFFFFFFFFFFFFFF
    ∃ text written, config.toToml = .ok text ∧
      FileTree.fresh.write ⟨"device"⟩ (Text.encode text) = .ok written ∧
        load written ⟨"device"⟩ = .ok config := by
  intro config
  obtain ⟨text, writes⟩ : ∃ text, config.toToml = .ok text := ⟨_, rfl⟩
  obtain ⟨written, stored⟩ : ∃ written,
      FileTree.fresh.write ⟨"device"⟩ (Text.encode text) = .ok written := ⟨_, rfl⟩
  have loads := (config.toml_round_trip.2 text writes).2 FileTree.fresh written ⟨"device"⟩
  exact ⟨text, written, writes, stored, loads (by decide) stored⟩

end MicroDevice
