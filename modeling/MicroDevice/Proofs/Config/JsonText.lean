import MicroDevice.Config.Text
import MicroDevice.Proofs.Config.Fields
import MicroDevice.Proofs.Files.Contents
import MicroDevice.Proofs.Json.Rendering
import MicroDevice.Simulation.Bench

/-! # Configurations in JSON texts

The JSON text of a configuration is read as the configuration, from the text itself and from a
file. The value that is written has the fields of the configuration as its data.
-/

namespace MicroDevice

/-- The tree written for a region holds its datum. -/
theorem MemoryRegion.datum_json (region : MemoryRegion) : region.json.datum = region.datum := by
  obtain ⟨kind, base, size⟩ := region
  have sizeDatum := Json.Numeral.datum_ofNat size.toNat_lt
  cases base with
  | none => simp [json, datum, fieldData, Json.Tree.datum, Json.membersData, sizeDatum,
      Extent.Field.name]
  | some base =>
      have baseDatum := Json.Numeral.datum_ofNat base.toNat_lt
      simp [json, datum, fieldData, Json.Tree.datum, Json.membersData, baseDatum, sizeDatum,
        Extent.Field.name]

/-- The tree written for a layout holds its datum. -/
theorem MemoryLayout.datum_json (layout : MemoryLayout) : layout.json.datum = layout.datum := by
  simp [json, datum, Json.Tree.datum, Json.membersData_eq_map, Function.comp_def,
    MemoryRegion.datum_json]

namespace DeviceConfig

/-- The value that is written for a configuration has its fields as data. -/
theorem datum_json (config : DeviceConfig) :
    config.json.datum = .mapping ((reader .refused).named config.fieldData) := by
  obtain ⟨deviceId, toolchainPrefix, layout, wordSize, thumbMode, method, address, port⟩ := config
  have fits : wordSize.toNat < UInt64.size := by
    have bounded := wordSize.toNat_lt
    have wider : UInt64.size = 18446744073709551616 := rfl
    omega
  have sizeDatum := Json.Numeral.datum_ofNat fits
  cases port with
  | none =>
      cases address <;>
        simp [json, fieldData, RecordReader.named, reader, Field.name, Json.Tree.datum,
          Json.membersData, sizeDatum, MemoryLayout.datum_json]
  | some port =>
      have fits : port.toNat < UInt64.size := by
        have bounded := port.toNat_lt
        have wider : UInt64.size = 18446744073709551616 := rfl
        omega
      have portDatum := Json.Numeral.datum_ofNat fits
      cases address <;>
        simp [json, fieldData, RecordReader.named, reader, Field.name, Json.Tree.datum,
          Json.membersData, sizeDatum, portDatum, MemoryLayout.datum_json]

/-- The document of a written configuration is read as that configuration. -/
theorem ofDocument_json (config : DeviceConfig) :
    ofDocument ⟨config.json.datum, true⟩ = .ok config := by
  have reads := config.read_fieldData .refused (List.Perm.refl _)
  rw [← datum_json] at reads
  rw [ofDocument, reads]
  rfl

/-- A configuration written as text is read back. -/
theorem ofJson_toJson (config : DeviceConfig) : ofJson config.toJson = .ok config := by
  rw [ofJson, toJson, Json.read_render, ofDocument_json]
  rfl

/-- The text is read as the configuration when it is a line of its own. -/
theorem ofJson_toJson_line (config : DeviceConfig) :
    ofJson (config.toJson ++ "\n") = .ok config := by
  rw [ofJson, toJson, Json.read_render_line, ofDocument_json]
  rfl

/-- A file is loaded as the text in it. -/
theorem load_of_readText {files : FileTree} {path : Path} {text : String}
    (reads : files.readText path = .ok text) : load files path = ofText path.extension? text := by
  have present : files.contains path = true := by
    unfold FileTree.readText at reads
    split at reads
    · cases reads
    · rename_i held
      exact FileTree.contains_of_read held
  rw [load, present, reads]
  rfl

/-- A file that was written is loaded as its text. -/
theorem load_write {files written : FileTree} {path : Path} {text : String}
    (writes : files.write path (Text.encode text) = .ok written) :
    load written path = ofText path.extension? text :=
  load_of_readText (FileTree.readText_write writes)

/-- The JSON text of a configuration is read as the configuration, and a file with the extension
`json` to which it was written is loaded as the configuration. -/
theorem json_round_trip (config : DeviceConfig) :
    ofJson config.toJson = .ok config ∧
      ∀ (files written : FileTree) (path : Path), path.extension? = some "json" →
        files.write path (Text.encode config.toJson) = .ok written →
          load written path = .ok config := by
  refine ⟨config.ofJson_toJson, ?_⟩
  intro files written path extension writes
  rw [load_write writes, ofText, if_pos extension]
  exact config.ofJson_toJson

end DeviceConfig

/-- A configuration that needs escapes and numbers of 64 bits is loaded from a file in a fresh
tree. -/
theorem DeviceConfig.load_awkward_json :
    let config := Simulation.awkwardConfig 0xFFFFFFFFFFFFFFFF
    ∃ written, FileTree.fresh.write ⟨"device.json"⟩ (Text.encode config.toJson) = .ok written ∧
      load written ⟨"device.json"⟩ = .ok config := by
  intro config
  obtain ⟨written, writes⟩ : ∃ written,
      FileTree.fresh.write ⟨"device.json"⟩ (Text.encode config.toJson) = .ok written := ⟨_, rfl⟩
  have loads := config.json_round_trip.2 FileTree.fresh written ⟨"device.json"⟩ rfl
  exact ⟨written, writes, loads writes⟩

end MicroDevice
