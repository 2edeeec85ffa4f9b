import MicroDevice.Build.Error
import MicroDevice.Channel.Error

/-! # Session errors

Why a session could not be opened, used or closed, and why a module could not be loaded. A
panic is among the reasons: nothing returns it, but it unwinds the program past all that would
return an error, and leaves behind what an error does.
-/

namespace MicroDevice

/-- Why a host does not run sessions. -/
inductive HostFault where
  | system (os : String)
  | pointerWidth (bits : UInt32)
  deriving DecidableEq, Repr

/-- The wording of a host fault. -/
def HostFault.message : HostFault → String
  | system os => "only Linux hosts are supported, found '" ++ os ++ "'"
  | pointerWidth bits => s!"only 64-bit hosts are supported, found {bits.toNat}-bit"

/-- Why an object could not be loaded as a module. -/
inductive LoadFault where
  | unreadable (fault : IoFault)
  | broken
  | foreign
  | other (text : String)
  deriving DecidableEq, Repr

/-- The wording of a loading fault. -/
def LoadFault.message : LoadFault → String
  | unreadable fault => fault.message
  | broken => brokenObjectText
  | foreign => "not a relocatable object"
  | other text => text

/-- What went wrong with a session or a module. -/
inductive SessionError where
  | host (fault : HostFault)
  | opening (error : OpenError)
  | reentrancy
  | channel (fault : ChannelFault)
  | load (path : Path) (fault : LoadFault)
  | build (error : BuildError)
  | config (error : ConfigError)
  | io (fault : IoFault)
  /-- The program panicked. -/
  | panic (message : String)
  deriving DecidableEq, Repr

/-- The wording of a session error. -/
def SessionError.message : SessionError → String
  | host fault => "unsupported host: " ++ fault.message
  | opening error => "failed to open '" ++ error.method ++ "' channel: " ++ error.fault.message
  | reentrancy => "session is already entered"
  | channel fault => "channel error: " ++ fault.message
  | load path fault => "failed to load module " ++ path.text ++ ": " ++ fault.message
  | build error => error.message
  | config error => error.message
  | io fault => "I/O error: " ++ fault.message
  | panic message => message

end MicroDevice
