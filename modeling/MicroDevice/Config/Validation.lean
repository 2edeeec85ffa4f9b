import MicroDevice.Config.Basic
import MicroDevice.Text.Characters

/-! # Validation of configurations

`DeviceConfig.issues` lists everything wrong with a configuration, where a session would
stop at the first. Overlapping regions are warnings; everything else is an error.
-/

namespace MicroDevice

/-- How grave an issue is. -/
inductive Severity where
  | error
  | warning
  deriving DecidableEq, Repr

/-- The name of a severity. -/
def Severity.name : Severity → String
  | error => "error"
  | warning => "warning"

/-- Something wrong with a configuration. -/
structure Issue where
  severity : Severity
  message : String
  deriving DecidableEq, Repr

namespace Issue

/-- The issue of a failed query: its error, if it failed. -/
def ofResult {α : Type} : Except ConfigError α → List Issue
  | .ok _ => []
  | .error error => [⟨.error, error.message⟩]

/-- A positioned region as a warning names it: its kind and its range of addresses. -/
def regionRange (region : MemoryRegion) : String :=
  s!"'{region.kind.name}' (0x{Text.hexUpper region.wireBase.toNat}..0x" ++
    s!"{Text.hexUpper (region.limit?.getD 0).toNat})"

/-- The warning for two regions that overlap. -/
def ofOverlap (pair : MemoryRegion × MemoryRegion) : Issue :=
  ⟨.warning, s!"memory regions {regionRange pair.1} and {regionRange pair.2} overlap"⟩

end Issue

/-- Everything wrong with a configuration, errors before warnings. -/
def DeviceConfig.issues (config : DeviceConfig) : List Issue :=
  (if Text.trim config.deviceId = "" then [⟨.error, "device_id is empty"⟩] else []) ++
    Issue.ofResult config.wordSizeBytes ++
    RegionKind.all.flatMap (fun kind => Issue.ofResult (config.memLayout.require kind)) ++
    Issue.ofResult config.transport ++
    config.memLayout.overlappingPairs.map Issue.ofOverlap

end MicroDevice
