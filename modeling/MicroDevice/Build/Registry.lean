import MicroDevice.Build.Toolchain

/-! # Backend registries

A registry finds the backend of a device id. Backends are only ever added, in the order of
their ids, and the first one registered under an id stays.
-/

namespace MicroDevice

/-- The backends known, in the order of their device ids. -/
structure Registry where
  backends : List DeviceBackend

namespace Registry

/-- The registry without backends. -/
def empty : Registry := ⟨[]⟩

/-- The backend of a device id. -/
def find? (registry : Registry) (deviceId : String) : Option DeviceBackend :=
  registry.backends.find? fun backend => backend.deviceId == deviceId

/-- The backend of a device id, which has to be known. -/
def get (registry : Registry) (deviceId : String) : Except BuildError DeviceBackend :=
  match registry.find? deviceId with
  | some backend => .ok backend
  | none => .error (.unknownDevice deviceId)

/-- Put a backend in its place among others. -/
def place (backend : DeviceBackend) : List DeviceBackend → List DeviceBackend
  | [] => [backend]
  | first :: later =>
      if backend.deviceId < first.deviceId then backend :: first :: later
      else first :: place backend later

/-- The registry with one more backend, whose id may not be taken. -/
def register (registry : Registry) (backend : DeviceBackend) : Except BuildError Registry :=
  match registry.find? backend.deviceId with
  | some _ => .error (.duplicateDevice backend.deviceId)
  | none => .ok ⟨place backend registry.backends⟩

/-- The registry with more backends; those whose ids are taken are left out. -/
def registerAll (registry : Registry) (backends : List DeviceBackend) : Registry :=
  backends.foldl (fun grown backend => (grown.register backend).toOption.getD grown) registry

/-- The registry of the families that are known from the start, on a host. -/
def builtins (host : Host) : Registry :=
  empty.registerAll (ToolchainFamily.builtins.map fun family => family.backend host)

/-- The device ids known, in order. -/
def ids (registry : Registry) : List String :=
  registry.backends.map (·.deviceId)

/-- The number of backends. -/
def size (registry : Registry) : Nat :=
  registry.backends.length

end Registry

end MicroDevice
