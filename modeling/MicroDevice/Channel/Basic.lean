import MicroDevice.Channel.Debug
import MicroDevice.Channel.Host
import MicroDevice.Session.Error

/-! # Channels

A channel runs the runtime on a device. Sessions work with channels of any kind: of what
the operations do, whether they succeed and how they fail nothing is assumed.
-/

namespace MicroDevice

/-- The operations of an open channel. -/
inductive Hook where
  | enter
  | exit
  | close
  deriving DecidableEq, Repr

/-- The name of an operation. -/
def Hook.name : Hook → String
  | enter => "enter"
  | exit => "exit"
  | close => "close"

/-- The channels of a kind: what each operation does to a channel and the network. -/
class Channel (Kind : Type) where
  perform : Hook → Action (Kind × Network) SessionError Unit

/-- How channels of a kind are opened. -/
abbrev Opener (Kind : Type) := ChannelParams → FileTree → Action Network SessionError Kind

/-- Open a channel and have it perform operations, whatever comes of each. -/
def Opener.use {Kind : Type} [Channel Kind] (opener : Opener Kind) (params : ChannelParams)
    (files : FileTree) (hooks : List Hook) :
    Action Network SessionError (List (Except SessionError Unit)) :=
  fun network =>
    match (opener params files).run network with
    | (.error error, later) => (.error error, later)
    | (.ok channel, later) =>
        let (outcomes, _, last) := Action.runEach (hooks.map Channel.perform) (channel, later)
        (.ok outcomes, last)

instance : Channel HostChannel where
  perform hook := fun (channel, network) =>
    let (result, later) := match hook with
      | .enter => channel.enter
      | .exit => channel.exit
      | .close => channel.close
    (result.mapError .channel, later, network)

instance : Channel DebugChannel where
  perform
    | .enter => DebugChannel.enter.widen .channel
    | .exit => DebugChannel.exit.widen .channel
    | .close => DebugChannel.close.widen .channel

/-- A channel of one of the two transports. -/
inductive DeviceChannel where
  | host (channel : HostChannel)
  | debug (channel : DebugChannel)

instance : Channel DeviceChannel where
  perform hook := fun (channel, network) =>
    match channel with
    | .host channel =>
        let (result, later, network) := (Channel.perform hook).run (channel, network)
        (result, .host later, network)
    | .debug channel =>
        let (result, later, network) := (Channel.perform hook).run (channel, network)
        (result, .debug later, network)

/-- Open a channel to the host. -/
def openHost : Opener HostChannel := fun params files =>
  Action.ofResult (HostChannel.openWith params files)

/-- Open a channel over a debug server. -/
def openDebug : Opener DebugChannel := fun params _ =>
  (DebugChannel.openWith params).widen fun fault => .opening ⟨"openocd", fault⟩

/-- Open a channel of the transport that the parameters name. -/
def openDevice : Opener DeviceChannel := fun params files =>
  match params.method with
  | .host => do return .host (← openHost params files)
  | .openocd => do return .debug (← openDebug params files)

end MicroDevice
