import MicroDevice.Build.Workshop
import MicroDevice.Config.Basic

/-! # Device backends

A backend knows how to build for one family of devices: it is asked to compile a source into an
object, with options. Nothing is assumed of how it does so: it is an action on a workshop.
-/

namespace MicroDevice

/-- What a library is for: the runtime that stays on a device, or operators loaded on top of
a running one. -/
inductive LibType where
  | runtime
  | operator
  deriving DecidableEq, Repr

/-- The name of a library type. -/
def LibType.name : LibType → String
  | runtime => "runtime"
  | operator => "operator"

/-- The options of a compilation. What is not set is up to the backend. -/
structure CompileOptions where
  toolchainPrefix : Option String
  layout : Option MemoryLayout
  wordSize : Option UInt32
  thumbMode : Bool
  /-- Compiler flags after those of the backend. -/
  flags : List String
  deriving DecidableEq

namespace CompileOptions

/-- The options without anything set. -/
def unset : CompileOptions := ⟨none, none, none, false, []⟩

/-- All that a configuration says about compilation. -/
def ofConfig (config : DeviceConfig) : CompileOptions where
  toolchainPrefix := some config.toolchainPrefix
  layout := some config.memLayout
  wordSize := some config.wordSize
  thumbMode := config.thumbMode
  flags := []

/-- The options with more flags at the end. -/
def withFlags (options : CompileOptions) (flags : List String) : CompileOptions :=
  { options with flags := options.flags ++ flags }

end CompileOptions

/-- A source to compile into an object. -/
structure CompileJob where
  object : Path
  source : Path
  libType : LibType
  options : CompileOptions
  deriving DecidableEq

/-- Where a debug server is, as far as that is known. -/
structure ServerEndpoint where
  address : Option String
  port : Option UInt16
  deriving DecidableEq, Repr

/-- What builds for a family of devices. -/
structure DeviceBackend where
  deviceId : String
  compile : CompileJob → Action Workshop BuildError Unit
  /-- The configuration of a device of the family, given its debug server. -/
  defaultConfig : ServerEndpoint → Except BuildError DeviceConfig

end MicroDevice
