import MicroDevice.Build.Backend
import MicroDevice.Build.PathArg
import MicroDevice.Channel.Basic

/-! # The world of a session

A workshop to build in, a network, and a journal of what was asked of backends, of export
steps and of channels, in order. The journal is written by those who ask, so it does not
depend on how the answer comes about.
-/

namespace MicroDevice

/-- Something that was asked for. -/
inductive Event where
  /-- A backend was asked to compile. -/
  | compiling (deviceId : String) (job : CompileJob)
  /-- An export step was asked for a library. -/
  | exporting (request : ExportRequest)
  /-- An opener was asked for a channel, while the runtime was present or not. -/
  | opening (params : ChannelParams) (runtimePresent : Bool) (succeeded : Bool)
  /-- A channel was asked for an operation, while the runtime was present or not. -/
  | hook (hook : Hook) (runtimePresent : Bool) (succeeded : Bool)
  deriving DecidableEq

/-- A call of a channel's operation, and whether it succeeded. -/
structure Call where
  hook : Hook
  succeeded : Bool
  deriving DecidableEq, Repr

/-- The call that an event is about, if it is a channel's operation. -/
def Event.call? : Event → Option Call
  | .hook operation _ succeeded => some ⟨operation, succeeded⟩
  | _ => none

/-- An entry: a channel was entered with success. -/
def Call.entry : Call := ⟨.enter, true⟩

/-- What a session acts on. -/
structure World where
  workshop : Workshop
  network : Network
  journal : List Event

namespace World

/-- The file tree of a world. -/
def files (world : World) : FileTree :=
  world.workshop.files

/-- The world with one more event in its journal. -/
def note (event : Event) (world : World) : World :=
  { world with journal := world.journal ++ [event] }

/-- The calls of channels' operations so far, in order. -/
def calls (world : World) : List Call :=
  world.journal.filterMap Event.call?

/-- The number of entries so far. -/
def entryCount (world : World) : Nat :=
  world.calls.count .entry

/-- An action in the workshop. -/
def inWorkshop {Error Answer : Type} (action : Action Workshop Error Answer) :
    Action World Error Answer :=
  action.onPart World.workshop fun world workshop => { world with workshop }

/-- Look at the files. -/
def look {Error Answer : Type} (view : FileTree → Except Error Answer) :
    Action World Error Answer :=
  fun world => (view world.files, world)

/-- Remove what a path denotes. -/
def removeAll (path : Path) (world : World) : World :=
  { world with workshop := world.workshop.removeAll path }

end World

/-- Ask a backend to compile. -/
def DeviceBackend.request (backend : DeviceBackend) (job : CompileJob) :
    Action World BuildError Unit := do
  Action.change (World.note (.compiling backend.deviceId job))
  World.inWorkshop (backend.compile job)

end MicroDevice
