import MicroDevice.Action
import MicroDevice.Build.Registry

/-! # Registries in use

A process has a registry from its start, and may make others. A registry grows in place; a copy
of it is a registry of its own. Registries are meant by their numbers, in the order in which
they came to be.
-/

namespace MicroDevice

/-- The registries that there are. -/
abbrev Registries := List Registry

/-- What may be asked of registries. -/
inductive RegistryRequest where
  /-- A new registry: one without backends, or one of the families known from the start. -/
  | make (withBuiltins : Bool)
  | copy (number : Nat)
  | register (number : Nat) (backend : DeviceBackend)
  | get (number : Nat) (deviceId : String)
  | ids (number : Nat)
  | size (number : Nat)

/-- The answer to a request. -/
inductive RegistryAnswer where
  /-- There is a registry of this number from now on. -/
  | made (number : Nat)
  | registered
  | found (backend : DeviceBackend)
  | ids (ids : List String)
  | size (size : Nat)
  /-- There is no registry of the number. -/
  | absent

namespace Registries

/-- The registries of a process at its start. -/
def ofProcess (host : Host) : Registries := [.builtins host]

/-- Add a registry to those there are. -/
def add (registry : Registry) : Action Registries BuildError RegistryAnswer :=
  fun registries => (.ok (.made registries.length), registries ++ [registry])

/-- Act on the registry of a number. -/
def withNumber (number : Nat)
    (act : Registry → Action Registries BuildError RegistryAnswer) :
    Action Registries BuildError RegistryAnswer :=
  fun registries =>
    match registries[number]? with
    | some registry => (act registry).run registries
    | none => (.ok .absent, registries)

end Registries

/-- Do what a request asks for. -/
def RegistryRequest.perform (host : Host) (request : RegistryRequest) :
    Action Registries BuildError RegistryAnswer :=
  match request with
  | make withBuiltins => Registries.add (if withBuiltins then .builtins host else .empty)
  | copy number => Registries.withNumber number Registries.add
  | register number backend => Registries.withNumber number fun registry => do
      let grown ← Action.ofResult (registry.register backend)
      Action.change fun registries => registries.set number grown
      return .registered
  | get number deviceId => Registries.withNumber number fun registry => do
      let backend ← Action.ofResult (registry.get deviceId)
      return .found backend
  | ids number => Registries.withNumber number fun registry => return .ids registry.ids
  | size number => Registries.withNumber number fun registry => return .size registry.size

/-- Do what requests ask for, one after another. -/
def Registries.performAll (registries : Registries) (host : Host)
    (requests : List RegistryRequest) : List (Except BuildError RegistryAnswer) × Registries :=
  Action.runEach (requests.map (RegistryRequest.perform host)) registries

end MicroDevice
