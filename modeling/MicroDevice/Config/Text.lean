import MicroDevice.Config.Record
import MicroDevice.Files.FileTree
import MicroDevice.Json.Reader
import MicroDevice.Json.Writer
import MicroDevice.Toml.Reader
import MicroDevice.Toml.Writer

/-! # Configurations as texts

A configuration is written in JSON as an object with its fields in the order of their declaration.
What is not set is left out. Reading takes the members in any order, and takes arrays for objects.

In TOML it is written with its plain fields first and one table for each region after them. TOML
integers have 63 bits, so a layout with a greater address or size has no TOML text.

A file whose extension is `json` is read as JSON, and any other as TOML.
-/

namespace MicroDevice

/-! ## JSON -/

/-- A region as a JSON value. -/
def MemoryRegion.json (region : MemoryRegion) : Json.Tree :=
  .object ((match region.base with
    | some base => [("start", .natural base.toNat)]
    | none => []) ++ [("size", .natural region.size.toNat)])

/-- A layout as a JSON value. -/
def MemoryLayout.json (layout : MemoryLayout) : Json.Tree :=
  .object (layout.regions.map fun region => (region.kind.name, region.json))

namespace DeviceConfig

/-- A configuration as a JSON value. -/
def json (config : DeviceConfig) : Json.Tree :=
  .object ([
      ("device_id", .string config.deviceId),
      ("toolchain_prefix", .string config.toolchainPrefix),
      ("mem_layout", config.memLayout.json),
      ("word_size", .natural config.wordSize.toNat),
      ("thumb_mode", .boolean config.thumbMode),
      ("comms_method", .string config.commsMethod)] ++
    (match config.serverAddr with
      | some address => [("server_addr", .string address)]
      | none => []) ++
    (match config.serverPort with
      | some port => [("server_port", .natural port.toNat)]
      | none => []))

/-- The JSON text of a configuration. -/
def toJson (config : DeviceConfig) : String :=
  config.json.render

/-- The configuration of a JSON document, after which nothing may follow. -/
def ofDocument (document : Document) : Except ReadFault DeviceConfig := do
  let config ← (reader .refused).read document.root
  if document.ended then .ok config else .error .syntactic

/-- The configuration of a JSON text. -/
def ofJson (text : String) : Except ConfigError DeviceConfig :=
  (ofDocument (Json.read text)).mapError .json

end DeviceConfig

/-! ## TOML -/

/-- The bound of the addresses and sizes that a TOML text can hold. -/
def tomlBound : Nat := 0x8000000000000000

/-- Whether a region can be written in TOML. -/
def MemoryRegion.fitsToml (region : MemoryRegion) : Bool :=
  region.wireBase.toNat < tomlBound && region.size.toNat < tomlBound

/-- The table of a region. -/
def MemoryRegion.tomlTable (region : MemoryRegion) : List Char :=
  Toml.tableHeader ("mem_layout." ++ region.kind.name) ++
    (match region.base with
      | some base => Toml.line "start" (Nat.toDigits 10 base.toNat)
      | none => []) ++
    Toml.line "size" (Nat.toDigits 10 region.size.toNat)

/-- The tables of a layout. -/
def MemoryLayout.tomlTables (layout : MemoryLayout) : List Char :=
  if layout.regions = [] then Toml.tableHeader "mem_layout"
  else layout.regions.flatMap MemoryRegion.tomlTable

namespace DeviceConfig

/-- The lines of the plain fields of a configuration. -/
def tomlLines (config : DeviceConfig) : List Char :=
  Toml.line "device_id" (Toml.stringText config.deviceId) ++
    Toml.line "toolchain_prefix" (Toml.stringText config.toolchainPrefix) ++
    Toml.line "word_size" (Nat.toDigits 10 config.wordSize.toNat) ++
    Toml.line "thumb_mode" (if config.thumbMode then "true".toList else "false".toList) ++
    Toml.line "comms_method" (Toml.stringText config.commsMethod) ++
    (match config.serverAddr with
      | some address => Toml.line "server_addr" (Toml.stringText address)
      | none => []) ++
    (match config.serverPort with
      | some port => Toml.line "server_port" (Nat.toDigits 10 port.toNat)
      | none => [])

/-- The TOML text of a configuration, if its addresses and sizes fit. -/
def toToml (config : DeviceConfig) : Except ConfigError String :=
  if config.memLayout.regions.all MemoryRegion.fitsToml then
    .ok (String.ofList (config.tomlLines ++ config.memLayout.tomlTables))
  else .error .tomlOutOfRange

/-- The configuration of a TOML document. -/
def ofTomlDatum (root : Option Datum) : Except ReadFault DeviceConfig :=
  match root with
  | some datum => (reader .ignored).read datum
  | none => .error .syntactic

/-- The configuration of a TOML text. -/
def ofToml (text : String) : Except ConfigError DeviceConfig :=
  (ofTomlDatum (Toml.read text)).mapError .toml

/-! ## Files -/

/-- The configuration of a text in the format that an extension stands for. -/
def ofText (extension : Option String) (text : String) : Except ConfigError DeviceConfig :=
  if extension = some "json" then ofJson text else ofToml text

/-- The configuration in a file. -/
def load (files : FileTree) (path : Path) : Except ConfigError DeviceConfig :=
  if files.contains path then
    match files.readText path with
    | .ok text => ofText path.extension? text
    | .error fault => .error (.io fault)
  else .error (.fileNotFound path)

end DeviceConfig

end MicroDevice
