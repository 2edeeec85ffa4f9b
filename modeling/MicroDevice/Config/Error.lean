import MicroDevice.Data.Fault
import MicroDevice.Files.Fault
import MicroDevice.Files.Path
import MicroDevice.Memory.Region

/-! # Configuration errors

What can be wrong with a device configuration, its memory layout, or the file it is read
from. Each cause has its own constructor; `ConfigError.message` is the one place that
words them.
-/

namespace MicroDevice

/-- Why sections cannot be placed in the memory given. -/
inductive PlacementError where
  | zeroWordSize
  | misalignedBase (base wordSize : UInt64)
  | fixedSizesOverflow
  | overcommitted (needed available : UInt64)
  | emptySection (kind : RegionKind)
  | pastTop (kind : RegionKind)
  deriving DecidableEq, Repr

/-- The wording of a placement error. -/
def PlacementError.message : PlacementError → String
  | zeroWordSize => "word size must be non-zero"
  | misalignedBase base wordSize =>
      s!"base address 0x{Text.hexUpper base.toNat} is not aligned to {wordSize.toNat} bytes"
  | fixedSizesOverflow => "fixed section sizes overflow the address space"
  | overcommitted needed available =>
      s!"fixed sections need {needed.toNat} bytes but only {available.toNat} are available"
  | emptySection kind => "section '" ++ kind.name ++ "' resolves to zero bytes"
  | pastTop kind => "section '" ++ kind.name ++ "' ends past the top of the address space"

/-- The endpoint fields that a debug server needs. -/
inductive EndpointField where
  | serverAddr
  | serverPort
  deriving DecidableEq, Repr

/-- The name an endpoint field has in configuration files. -/
def EndpointField.name : EndpointField → String
  | serverAddr => "server_addr"
  | serverPort => "server_port"

/-- What is wrong with a configuration or the file it comes from. -/
inductive ConfigError where
  | toml (fault : ReadFault)
  | tomlOutOfRange
  | json (fault : ReadFault)
  | io (fault : IoFault)
  | fileNotFound (path : Path)
  | missingRegion (kind : RegionKind)
  | unknownRegion (name : String)
  | wordSize (bits : UInt32)
  | missingEndpoint (method : String) (field : EndpointField)
  | unknownTransport (method : String)
  | placement (error : PlacementError)
  deriving DecidableEq, Repr

/-- The wording of a configuration error. -/
def ConfigError.message : ConfigError → String
  | toml fault => "TOML parse error: " ++ fault.message
  | tomlOutOfRange => "TOML serialization error: out-of-range value for u64 type"
  | json fault => "JSON error: " ++ fault.message
  | io fault => "I/O error: " ++ fault.message
  | fileNotFound path => "config file not found: " ++ path.text
  | missingRegion kind => "memory layout is missing required region '" ++ kind.name ++ "'"
  | unknownRegion name => unknownRegionMessage name
  | wordSize bits => s!"invalid config field 'word_size': expected 32 or 64, got {bits.toNat}"
  | missingEndpoint method field =>
      "comms method '" ++ method ++ "' requires '" ++ field.name ++ "' to be set"
  | unknownTransport method => "unknown communication method: '" ++ method ++ "'"
  | placement error => "layout error: " ++ error.message

end MicroDevice
