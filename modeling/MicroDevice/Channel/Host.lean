import MicroDevice.Channel.Params
import MicroDevice.Files.FileTree
import MicroDevice.Object.Format
import MicroDevice.Session.Error

/-! # Channels to the host

The runtime in the process that drives it. The memory of the device is emulated: regions
without an address are placed one after another from a fixed address on.
-/

namespace MicroDevice

/-- The registers of an emulated device, and whether it is ready to run. -/
structure ExecutionContext where
  armed : Bool
  pc : UInt64
  sp : UInt64
  deriving DecidableEq, Repr

/-- The context of a device that is not ready to run. -/
def ExecutionContext.idle : ExecutionContext := ⟨false, 0, 0⟩

/-- Where an emulated region is, and how many bytes it has. -/
structure Placement where
  base : UInt64
  size : UInt64
  deriving DecidableEq, Repr

/-- A channel to the host. -/
structure HostChannel where
  placement? : RegionKind → Option Placement
  wordBytes : UInt64
  context : ExecutionContext
  isOpen : Bool

namespace HostChannel

/-- The address from which regions are placed. -/
def arenaBase : UInt64 := 0x10000000

/-- The error of a channel to the host that could not be opened. -/
def openError (fault : OpenFault) : SessionError :=
  .opening ⟨"host", fault⟩

/-- The number of bytes of loaded code in an object. The sizes that the headers declare are added
up without a check, so a sum that is not a word is a panic. -/
def codeSize (contents : Bytes) : Except SessionError UInt64 :=
  match Object.ObjectFile.ofBytes? contents with
  | none => .error (openError .runtimeBroken)
  | some .foreign => .error (openError .runtimeForeign)
  | some .machO => .ok 0
  | some (.elf elf) =>
      match elf.codeSize? with
      | some size => .ok size
      | none => .error (.panic Word.overflowText)

/-- The regions of a device fit the host when their sizes add up to no more than the limit. -/
def checkTotal (regions : List MemoryRegion) : Except OpenFault Unit :=
  match Word.sum? (regions.map (·.size)) with
  | some total => if total ≤ emulationLimit then .ok () else .error .beyondEmulation
  | none => .error .beyondEmulation

/-- The code of the runtime has to fit the text region. -/
def checkText (params : ChannelParams) (code : UInt64) : Except OpenFault Unit :=
  match params.region? .text with
  | none => .error .noTextRegion
  | some text => if text.size < code then .error (.codeTooLarge code text.size) else .ok ()

/-- Where the regions of a list are: one without an address comes at the first whole word at
or after `next`. Of two regions of a kind the later one counts. -/
def place (wordBytes : UInt64) :
    (next : UInt64) → (placed : RegionKind → Option Placement) → List MemoryRegion →
      Except OpenFault (RegionKind → Option Placement)
  | _, placed, [] => .ok placed
  | next, placed, region :: later =>
      let put (base : UInt64) : RegionKind → Option Placement :=
        fun kind => if kind = region.kind then some ⟨base, region.size⟩ else placed kind
      match region.base with
      | none =>
          let base := Word.roundUp next wordBytes
          place wordBytes (base + region.size) (put base) later
      | some base =>
          match Word.add? base region.size with
          | none => .error (.regionPastTop region.kind base)
          | some _ => place wordBytes next (put base) later

/-- Check the runtime and lay out the memory of the device. -/
def openWith (params : ChannelParams) (files : FileTree) : Except SessionError HostChannel := do
  let contents ← (files.read params.runtime).mapError fun fault =>
    openError (.runtimeUnreadable fault)
  let code ← codeSize contents
  (checkTotal params.regions).mapError openError
  (checkText params code).mapError openError
  let wordBytes := if params.wordBytes = 0 then 1 else params.wordBytes
  let placement? ← (place wordBytes arenaBase (fun _ => none) params.regions).mapError openError
  return ⟨placement?, wordBytes, .idle, true⟩

/-- The address of a region. -/
def base? (channel : HostChannel) (kind : RegionKind) : Option UInt64 :=
  (channel.placement? kind).map (·.base)

/-- The context of a device that is ready to run the runtime. -/
def armedContext (channel : HostChannel) : Except ChannelFault ExecutionContext :=
  match channel.placement? .text, channel.placement? .stack with
  | some text, some stack =>
      match stackTop? stack.base stack.size channel.wordBytes with
      | some top => .ok ⟨true, text.base, top⟩
      | none => .error .stackPastTop
  | _, _ => .error .hostIncomplete

/-- Enter the runtime: the device becomes ready to run. -/
def enter (channel : HostChannel) : Except ChannelFault Unit × HostChannel :=
  if channel.isOpen then
    match channel.armedContext with
    | .ok context => (.ok (), { channel with context })
    | .error fault => (.error fault, channel)
  else (.error .hostClosed, channel)

/-- Exit from the runtime. -/
def exit (channel : HostChannel) : Except ChannelFault Unit × HostChannel :=
  if channel.isOpen then
    (.ok (), { channel with context := { channel.context with armed := false } })
  else (.error .hostClosed, channel)

/-- Close an open channel. -/
def close (channel : HostChannel) : Except ChannelFault Unit × HostChannel :=
  if channel.isOpen then
    (.ok (), { channel with placement? := fun _ => none, context := .idle, isOpen := false })
  else (.error .hostClosed, channel)

end HostChannel

end MicroDevice
