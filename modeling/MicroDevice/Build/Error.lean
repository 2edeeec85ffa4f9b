import MicroDevice.Config.Error
import MicroDevice.Text.Characters
import MicroDevice.Text.Utf8

/-! # Build errors

Why a library could not be built. The wording of each cause is in the `message` functions
alone.
-/

namespace MicroDevice

/-- Why a tool did not do its work. -/
inductive ToolFailure where
  | notStarted (fault : IoFault)
  | nulInCommand
  | exited (status : Nat) (stderr : Bytes)
  | other (text : String)
  deriving DecidableEq, Repr

/-- The wording of a tool failure. -/
def ToolFailure.message : ToolFailure → String
  | notStarted fault => "failed to invoke: " ++ fault.message
  | nulInCommand => "failed to invoke: nul byte found in provided data"
  | exited status stderr =>
      s!"exited with exit status: {status}: " ++ Text.trim (Text.decodeLossy stderr)
  | other text => text

/-- Why a backend does not build for a layout. -/
inductive LayoutFault where
  | overlap (first second : RegionKind)
  | other (text : String)
  deriving DecidableEq, Repr

/-- The wording of a layout fault. -/
def LayoutFault.message : LayoutFault → String
  | overlap first second => "regions '" ++ first.name ++ "' and '" ++ second.name ++ "' overlap"
  | other text => text

/-- Why an argument is refused. -/
inductive ArgumentFault where
  | wordSize (deviceId : String) (fixed requested : UInt32)
  | notOneFile (argument : String) (count : Nat)
  | moduleName (name : String)
  deriving DecidableEq, Repr

/-- The wording of an argument fault. -/
def ArgumentFault.message : ArgumentFault → String
  | wordSize deviceId fixed requested =>
      "device '" ++ deviceId ++
        s!"' is {fixed.toNat}-bit but {requested.toNat}-bit code was requested"
  | notOneFile argument count => argument ++ s!" must name exactly one file, got {count}"
  | moduleName name => "module name '" ++ name ++ "' must be a plain file name"

/-- Why a backend was not found or a library not built. -/
inductive BuildError where
  | unknownDevice (deviceId : String)
  | duplicateDevice (deviceId : String)
  | tool (name : String) (failure : ToolFailure)
  | layout (deviceId : String) (fault : LayoutFault)
  | argument (fault : ArgumentFault)
  | io (fault : IoFault)
  | config (error : ConfigError)
  deriving DecidableEq, Repr

/-- The wording of a build error. -/
def BuildError.message : BuildError → String
  | unknownDevice deviceId => "no backend registered for device '" ++ deviceId ++ "'"
  | duplicateDevice deviceId => "a backend for device '" ++ deviceId ++ "' is already registered"
  | tool name failure => name ++ " failed: " ++ failure.message
  | layout deviceId fault => "layout rejected by '" ++ deviceId ++ "' backend: " ++ fault.message
  | argument fault => "invalid argument: " ++ fault.message
  | io fault => "I/O error: " ++ fault.message
  | config error => error.message

end MicroDevice
