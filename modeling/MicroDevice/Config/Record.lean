import MicroDevice.Config.Basic
import MicroDevice.Data.Record
import MicroDevice.Data.Scalar

/-! # Configurations as records

The fields of a device configuration and of a region, as documents name them, and how
each is read. A memory layout is a mapping from region names; where a name comes twice the
last entry holds.
-/

namespace MicroDevice

namespace Extent

/-- The fields of an extent. -/
inductive Field where
  | start
  | size
  deriving DecidableEq, Repr

/-- The name of a field in documents. -/
def Field.name : Field → String
  | start => "start"
  | size => "size"

/-- An extent of which some fields have been read. -/
structure Draft where
  start : Option (Option UInt64)
  size : Option UInt64

/-- Whether a field has been read. -/
def Draft.holds (draft : Draft) : Field → Bool
  | .start => draft.start.isSome
  | .size => draft.size.isSome

/-- Read a field. -/
def Draft.put (draft : Draft) (field : Field) (value : Datum) : Except ReadFault Draft :=
  match field with
  | .start => do return { draft with start := some (← value.nullable Datum.word64) }
  | .size => do return { draft with size := some (← value.word64) }

/-- The extent of a draft that has a size. -/
def Draft.complete? (draft : Draft) : Option Extent :=
  draft.size.map fun size => ⟨draft.start.getD none, size⟩

/-- How an extent is read. -/
def reader (surplus : Surplus) : RecordReader Field Draft Extent where
  name := "RegionSpec"
  surplus := surplus
  fields := [.start, .size]
  fieldName := Field.name
  isRequired := fun field => field = .size
  blank := ⟨none, none⟩
  holds := Draft.holds
  put := Draft.put
  complete? := Draft.complete?

end Extent

namespace MemoryLayout

/-- Read one entry of a layout. -/
def putEntry (surplus : Surplus) (layout : MemoryLayout) :
    Key × Datum → Except ReadFault MemoryLayout
  | (none, _) => .error .syntactic
  | (some name, value) =>
      match RegionKind.ofName? name with
      | none => .error (.data (.unknownRegion name))
      | some kind => do
          let extent ← (Extent.reader surplus).read value
          return layout.insert kind extent.start extent.size

/-- The layout of a datum. -/
def ofDatum (surplus : Surplus) : Datum → Except ReadFault MemoryLayout
  | .mapping entries => entries.foldlM (putEntry surplus) empty
  | other => .error (other.mismatch "a map")

end MemoryLayout

namespace DeviceConfig

/-- The fields of a configuration. -/
inductive Field where
  | deviceId
  | toolchainPrefix
  | memLayout
  | wordSize
  | thumbMode
  | commsMethod
  | serverAddr
  | serverPort
  deriving DecidableEq, Repr

namespace Field

/-- Every field, in the order of their declaration. -/
def all : List Field :=
  [deviceId, toolchainPrefix, memLayout, wordSize, thumbMode, commsMethod, serverAddr, serverPort]

/-- The name of a field in documents. -/
def name : Field → String
  | deviceId => "device_id"
  | toolchainPrefix => "toolchain_prefix"
  | memLayout => "mem_layout"
  | wordSize => "word_size"
  | thumbMode => "thumb_mode"
  | commsMethod => "comms_method"
  | serverAddr => "server_addr"
  | serverPort => "server_port"

/-- Whether a configuration without the field is refused. -/
def isRequired (field : Field) : Bool :=
  field = deviceId || field = wordSize || field = commsMethod

end Field

/-- A configuration of which some fields have been read. -/
structure Draft where
  deviceId : Option String
  toolchainPrefix : Option String
  memLayout : Option MemoryLayout
  wordSize : Option UInt32
  thumbMode : Option Bool
  commsMethod : Option String
  serverAddr : Option (Option String)
  serverPort : Option (Option UInt16)

namespace Draft

/-- The draft without fields. -/
def blank : Draft := ⟨none, none, none, none, none, none, none, none⟩

/-- Whether a field has been read. -/
def holds (draft : Draft) : Field → Bool
  | .deviceId => draft.deviceId.isSome
  | .toolchainPrefix => draft.toolchainPrefix.isSome
  | .memLayout => draft.memLayout.isSome
  | .wordSize => draft.wordSize.isSome
  | .thumbMode => draft.thumbMode.isSome
  | .commsMethod => draft.commsMethod.isSome
  | .serverAddr => draft.serverAddr.isSome
  | .serverPort => draft.serverPort.isSome

/-- Read a field. -/
def put (surplus : Surplus) (draft : Draft) (field : Field) (value : Datum) :
    Except ReadFault Draft :=
  match field with
  | .deviceId => do return { draft with deviceId := some (← value.text) }
  | .toolchainPrefix => do return { draft with toolchainPrefix := some (← value.text) }
  | .memLayout => do return { draft with memLayout := some (← MemoryLayout.ofDatum surplus value) }
  | .wordSize => do return { draft with wordSize := some (← value.word32) }
  | .thumbMode => do return { draft with thumbMode := some (← value.truth) }
  | .commsMethod => do return { draft with commsMethod := some (← value.text) }
  | .serverAddr => do return { draft with serverAddr := some (← value.nullable Datum.text) }
  | .serverPort => do return { draft with serverPort := some (← value.nullable Datum.word16) }

/-- The configuration of a draft that has the required fields. -/
def complete? (draft : Draft) : Option DeviceConfig := do
  let deviceId ← draft.deviceId
  let wordSize ← draft.wordSize
  let commsMethod ← draft.commsMethod
  return {
    deviceId, wordSize, commsMethod
    toolchainPrefix := draft.toolchainPrefix.getD ""
    memLayout := draft.memLayout.getD .empty
    thumbMode := draft.thumbMode.getD false
    serverAddr := draft.serverAddr.getD none
    serverPort := draft.serverPort.getD none }

end Draft

/-- How a configuration is read. -/
def reader (surplus : Surplus) : RecordReader Field Draft DeviceConfig where
  name := "DeviceConfig"
  surplus := surplus
  fields := Field.all
  fieldName := Field.name
  isRequired := Field.isRequired
  blank := Draft.blank
  holds := Draft.holds
  put := Draft.put surplus
  complete? := Draft.complete?

end DeviceConfig

end MicroDevice
