import MicroDevice.Files.Fault
import MicroDevice.Memory.Region
import MicroDevice.Text.Characters

/-! # Channel faults

Why a channel could not be opened and why one of its operations failed, with the wording of
each cause.
-/

namespace MicroDevice

/-- Why a command of a debug server did not succeed. -/
inductive ReplyFault where
  | connection (fault : IoFault)
  /-- The server answered with an error. -/
  | reported (message : String)
  /-- The server answered neither with success nor with an error. -/
  | unexpected (reply : String)
  deriving DecidableEq, Repr

/-- The wording of a reply fault. -/
def ReplyFault.message : ReplyFault → String
  | connection fault => fault.message
  | reported message => message
  | unexpected reply => "unexpected reply '" ++ reply ++ "'"

/-- The greatest sum of region sizes, in bytes, that is emulated on the host. -/
def emulationLimit : UInt64 := 67108864

/-- Why a channel could not be opened. -/
inductive OpenFault where
  | runtimeUnreadable (fault : IoFault)
  | runtimeBroken
  | runtimeForeign
  | beyondEmulation
  | noTextRegion
  | noStackRegion
  | codeTooLarge (code held : UInt64)
  | regionPastTop (kind : RegionKind) (base : UInt64)
  | stackPastTop
  | unreachable (address : String) (port : UInt16) (fault : IoFault)
  | command (text : String) (fault : ReplyFault)
  | other (text : String)
  deriving DecidableEq, Repr

/-- What messages say of an object file that is broken. -/
def brokenObjectText : String := "malformed object file"

/-- The wording of an opening fault. -/
def OpenFault.message : OpenFault → String
  | runtimeUnreadable fault => "cannot read runtime object: " ++ fault.message
  | runtimeBroken => "runtime artifact is unreadable: " ++ brokenObjectText
  | runtimeForeign => "runtime artifact is not a relocatable object"
  | beyondEmulation =>
      s!"layout does not fit host emulation, which is limited to {emulationLimit.toNat} bytes"
  | noTextRegion => "layout has no text region"
  | noStackRegion => "layout has no stack region"
  | codeTooLarge code held =>
      s!"runtime code is {code.toNat} bytes but the text region holds {held.toNat}"
  | regionPastTop kind base =>
      "region '" ++ kind.name ++ "' at 0x" ++ Text.hexUpper base.toNat ++
        " ends past the top of the address space"
  | stackPastTop => "stack region ends past the top of the address space"
  | unreachable address port fault =>
      "cannot reach " ++ address ++ s!":{port.toNat}: " ++ fault.message
  | command text fault => "'" ++ text ++ "' failed: " ++ fault.message
  | other text => text

/-- A channel that could not be opened: its method and the reason. -/
structure OpenError where
  method : String
  fault : OpenFault
  deriving DecidableEq, Repr

/-- Why an operation of an open channel failed. -/
inductive ChannelFault where
  | hostClosed
  | hostIncomplete
  | stackPastTop
  | debugClosed
  | command (text : String) (fault : ReplyFault)
  | other (text : String)
  deriving DecidableEq, Repr

/-- The wording of a channel fault. -/
def ChannelFault.message : ChannelFault → String
  | hostClosed => "host channel is closed"
  | hostIncomplete => "host channel has no text or stack region"
  | stackPastTop => "stack region ends past the top of the address space"
  | debugClosed => "OpenOCD channel is closed"
  | command text fault => "OpenOCD '" ++ text ++ "' failed: " ++ fault.message
  | other text => text

end MicroDevice
