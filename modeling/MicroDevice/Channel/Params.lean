import MicroDevice.Config.Basic
import MicroDevice.Files.Path

/-! # Channel parameters

All that a transport needs to bring up the runtime on a device.
-/

namespace MicroDevice

/-- What a channel is opened with. -/
structure ChannelParams where
  method : CommsMethod
  runtime : Path
  toolchainPrefix : String
  regions : List MemoryRegion
  /-- The word size in bits. -/
  wordSize : UInt32
  thumbMode : Bool
  /-- The address of the debug server; empty where there is none. -/
  address : String
  /-- The port of the debug server; zero where there is none. -/
  port : UInt16
  deriving DecidableEq, Repr

namespace ChannelParams

/-- The first region of a kind. -/
def region? (params : ChannelParams) (kind : RegionKind) : Option MemoryRegion :=
  params.regions.find? fun region => region.kind = kind

/-- The word size in whole bytes. -/
def wordBytes (params : ChannelParams) : UInt64 :=
  (params.wordSize / 8).toUInt64

end ChannelParams

/-- The top of a stack, rounded down to whole words, if the stack ends inside the address
space. A word size of zero leaves it as it is. -/
def stackTop? (base size wordBytes : UInt64) : Option UInt64 :=
  (Word.add? base size).map fun top =>
    if wordBytes = 0 then top else Word.roundDown top wordBytes

end MicroDevice
