import MicroDevice.Channel.Error
import MicroDevice.Channel.Network
import MicroDevice.Channel.Params
import MicroDevice.Text.Characters

/-! # Channels over a debug server

The runtime on a device behind an OpenOCD server. The server reports failures only in the
text of a reply, so each command is wrapped in one that answers with a tag.
-/

namespace MicroDevice

/-- A channel over a debug server. -/
structure DebugChannel where
  /-- The connection, until the channel is closed. -/
  connection : Option Connection
  stackPointer : UInt64
  deriving DecidableEq, Repr

namespace DebugChannel

/-- The tag of a command that succeeded. -/
def okTag : String := "micrort-ok"

/-- The tag before the message of a command that failed. -/
def errorTag : String := "micrort-error:"

/-- A command that answers with a tag. -/
def tagged (command : String) : String :=
  "if \x7b[catch \x7b" ++ command ++ "\x7d err]\x7d \x7bconcat " ++ errorTag ++
    " $err\x7d else \x7bconcat " ++ okTag ++ "\x7d"

/-- What a reply to a tagged command says. -/
def judge (reply : String) : Except ReplyFault Unit :=
  let said := Text.trim reply
  if said = okTag then .ok ()
  else if errorTag.toList.isPrefixOf said.toList then
    .error (.reported (Text.trim (String.ofList (said.toList.drop errorTag.length))))
  else .error (.unexpected said)

/-- Run a command, which has to succeed. -/
def runChecked (command : String) : Action (Connection × Network) ReplyFault Unit := do
  let reply ← (Connection.command (tagged command)).widen .connection
  Action.ofResult (judge reply)

/-- Run commands up to the first that fails; the failure is worded with its command. -/
def runAll {Fault : Type} (worded : String → ReplyFault → Fault) :
    List String → Action (Connection × Network) Fault Unit
  | [] => return ()
  | command :: later => do
      (runChecked command).widen (worded command)
      runAll worded later

/-- The command that loads the runtime at an address. -/
def loadCommand (runtime : Path) (base : UInt64) : String :=
  "load_image " ++ runtime.text ++ " 0x" ++ Text.hexLower base.toNat ++ " elf"

/-- The commands that open a channel. -/
def openCommands (runtime : Path) (base : UInt64) : List String :=
  ["reset halt", loadCommand runtime base]

/-- The commands that enter the runtime. -/
def enterCommands (stackPointer : UInt64) : List String :=
  ["reset halt", "reg sp 0x" ++ Text.hexLower stackPointer.toNat]

/-- The commands that exit from the runtime. -/
def exitCommands : List String := ["halt"]

/-- Where the runtime is loaded and the stack begins, if the regions say so. -/
def addresses (params : ChannelParams) : Except OpenFault (UInt64 × UInt64) :=
  match params.region? .text, params.region? .stack with
  | none, _ => .error .noTextRegion
  | some _, none => .error .noStackRegion
  | some text, some stack =>
      match stackTop? stack.wireBase stack.size params.wordBytes with
      | none => .error .stackPastTop
      | some top => .ok (text.wireBase, top)

/-- Connect to the server, halt the device, and load the runtime. -/
def openWith (params : ChannelParams) : Action Network OpenFault DebugChannel := do
  let connection ← Connection.connect.widen (.unreachable params.address params.port)
  let (base, stackPointer) ← Action.ofResult (addresses params)
  fun network =>
    match (runAll .command (openCommands params.runtime base)).run (connection, network) with
    | (.ok (), connection, later) => (.ok ⟨some connection, stackPointer⟩, later)
    | (.error fault, _, later) => (.error fault, later)

/-- Run commands on an open channel. -/
def perform (commands : List String) : Action (DebugChannel × Network) ChannelFault Unit :=
  fun (channel, network) =>
    match channel.connection with
    | none => (.error .debugClosed, channel, network)
    | some connection =>
        let (result, connection, network) :=
          (runAll .command commands).run (connection, network)
        (result, { channel with connection := some connection }, network)

/-- Enter the runtime: halt the device and set its stack pointer. -/
def enter : Action (DebugChannel × Network) ChannelFault Unit :=
  fun state => perform (enterCommands state.1.stackPointer) state

/-- Exit from the runtime: halt the device. -/
def exit : Action (DebugChannel × Network) ChannelFault Unit :=
  perform exitCommands

/-- Close an open channel. -/
def close : Action (DebugChannel × Network) ChannelFault Unit :=
  fun (channel, network) =>
    match channel.connection with
    | none => (.error .debugClosed, channel, network)
    | some _ => (.ok (), { channel with connection := none }, network)

end DebugChannel

end MicroDevice
