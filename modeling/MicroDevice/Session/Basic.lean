import MicroDevice.Session.Module

/-! # Sessions

A session is a compiled runtime and the channel that runs it. It is built in a fixed order:
the host is checked, the backend is looked up, the layout and the word size are checked, the
runtime is compiled, the transport is resolved, and the channel is opened. Then it is
entered and exited until it is closed or dropped.
-/

namespace MicroDevice

/-- Where a session is in its life. -/
inductive Phase where
  | uninitialized
  | compilingRuntime
  | channelOpen
  | entered
  | exited
  | closed
  deriving DecidableEq, Repr

namespace Phase

/-- The name of a phase. -/
def name : Phase → String
  | uninitialized => "uninitialized"
  | compilingRuntime => "compiling-runtime"
  | channelOpen => "channel-open"
  | entered => "entered"
  | exited => "exited"
  | closed => "closed"

/-- Why a session cannot be entered in a phase, if it cannot. -/
def refusal? : Phase → Option SessionError
  | entered => some .reentrancy
  | channelOpen => none
  | exited => none
  | other => some (.channel (.other ("cannot enter a session in state " ++ other.name)))

end Phase

/-- A session over a channel of some kind. -/
structure Session (Kind : Type) where
  config : DeviceConfig
  backend : DeviceBackend
  transport : Transport
  /-- The compiled runtime. -/
  runtime : ObjectArtifact
  channel : Kind
  /-- Whether the channel was told to close. -/
  isClosed : Bool
  phase : Phase
  /-- The directory that the session owns. -/
  directory : Path

/-- What a session is built with. -/
structure SessionSetup (Kind : Type) where
  registry : Registry
  host : Host
  opener : Opener Kind

/-- A session and the world it acts on. -/
structure Live (Kind : Type) where
  session : Session Kind
  world : World

/-- How a scope ends: it returns, fails, or is unwound. -/
inductive Ending where
  | returned
  | failed (error : SessionError)
  | unwound (message : String)
  deriving DecidableEq, Repr

/-- Sessions run on Linux hosts with 64-bit pointers. -/
def Host.check (host : Host) : Except SessionError Unit :=
  if host.isLinux then
    if host.is64Bit then .ok () else .error (.host (.pointerWidth host.pointerWidth))
  else .error (.host (.system host.os))

namespace Session

variable {Kind : Type}

/-- The file name of the compiled runtime. -/
def runtimeObjectName : String := "micrort_runtime.obj"

/-- Compile the runtime in the directory of a session. -/
def compileRuntime (backend : DeviceBackend) (config : DeviceConfig) (directory : Path) :
    Action World BuildError ObjectArtifact := do
  let source ← World.inWorkshop (Sources.writeRuntime directory)
  let object := directory.join runtimeObjectName
  backend.request ⟨object, source, .runtime, .ofConfig config⟩
  World.inWorkshop (Workshop.look fun files => ObjectArtifact.ofFile files object)

/-- What a channel for a configuration is opened with. -/
def channelParams (config : DeviceConfig) (regions : List MemoryRegion) (transport : Transport)
    (runtime : ObjectArtifact) : ChannelParams where
  method := transport.method
  runtime := runtime.path
  toolchainPrefix := config.toolchainPrefix
  regions := regions
  wordSize := config.wordSize
  thumbMode := config.thumbMode
  address := transport.endpoint.1
  port := transport.endpoint.2

/-- Ask an opener for a channel. -/
def openChannel (opener : Opener Kind) (params : ChannelParams) : Action World SessionError Kind :=
  fun world =>
    let present := world.files.contains params.runtime
    let (result, network) := (opener params world.files).run world.network
    (result, { world with network }.note (.opening params present result.isOk))

/-- Build a session in a directory that is there already. -/
def buildIn (setup : SessionSetup Kind) (backend : DeviceBackend) (config : DeviceConfig)
    (regions : List MemoryRegion) (directory : Path) :
    Action World SessionError (Session Kind) := do
  let runtime ← (compileRuntime backend config directory).widen .build
  let transport ← Action.ofResult (config.transport.mapError .config)
  let channel ← openChannel setup.opener (channelParams config regions transport runtime)
  return ⟨config, backend, transport, runtime, channel, false, .channelOpen, directory⟩

/-- Build a session for a configuration. Its directory is removed unless the session is there
to own it. -/
def build (setup : SessionSetup Kind) (config : DeviceConfig) :
    Action World SessionError (Session Kind) := do
  Action.ofResult setup.host.check
  let backend ← Action.ofResult ((setup.registry.get config.deviceId).mapError .build)
  let regions ← Action.ofResult (config.memLayout.requireAll.mapError .config)
  let _ ← Action.ofResult (config.wordSizeBytes.mapError .config)
  let directory ← World.inWorkshop ((Workshop.makeTemporary "micrort-session-").widen .io)
  (buildIn setup backend config regions directory).orTidy (World.removeAll directory)

/-- The cross compiler of a session for a library type. -/
def crossCompiler (session : Session Kind) (libType : LibType) : CrossCompiler :=
  .ofConfig session.backend session.config libType

/-- Build a module with the backend of a session and load it. -/
def createModule (session : Session Kind) (module : SourceModule) :
    Action World SessionError MicroModule :=
  buildModule (session.crossCompiler .operator).exportCompiler loadObject module

end Session

namespace Live

variable {Kind : Type} [Channel Kind]

/-- Ask the channel of a session for an operation. -/
def ask (hook : Hook) : Action (Live Kind) SessionError Unit :=
  fun live =>
    let present := live.world.files.contains live.session.runtime.path
    let (result, channel, network) :=
      (Channel.perform hook).run (live.session.channel, live.world.network)
    (result, {
      session := { live.session with channel }
      world := { live.world with network }.note (.hook hook present result.isOk) })

/-- A session in another phase. -/
def setPhase (phase : Phase) (live : Live Kind) : Live Kind :=
  { live with session := { live.session with phase } }

/-- Enter the runtime, if the phase of the session allows it. -/
def enter : Action (Live Kind) SessionError Unit :=
  fun live =>
    match live.session.phase.refusal? with
    | some error => (.error error, live)
    | none => (do ask .enter; Action.change (setPhase .entered) : Action (Live Kind) _ _).run live

/-- Exit from the runtime if it is entered. It counts as exited even if the channel fails. -/
def exit : Action (Live Kind) SessionError Unit :=
  fun live =>
    if live.session.phase = .entered then (ask .exit).run (live.setPhase .exited)
    else (.ok (), live)

/-- Release a guard: exit, whatever comes of it. -/
def release (live : Live Kind) : Live Kind :=
  (exit.run live).2

/-- Exit through a guard. The guard is released after that. -/
def exitGuard : Action (Live Kind) SessionError Unit :=
  exit.thenAlways release

/-- Leave a scope whose body has come to an end. The outcome is that of the body, or that of
the exit if the body returned. -/
def leave (ending : Ending) (live : Live Kind) : Ending × Live Kind :=
  match ending with
  | .unwound message => (.unwound message, live.release)
  | .failed error => (.failed error, (exitGuard.run live).2)
  | .returned =>
      match exitGuard.run live with
      | (.ok (), later) => (.returned, later)
      | (.error error, later) => (.failed error, later)

/-- Run a body inside the runtime and exit however it ends. The answer of the body is there if
the body ran. -/
def within {Answer : Type} (body : Live Kind → (Answer × Ending) × Live Kind) (live : Live Kind) :
    (Option Answer × Ending) × Live Kind :=
  match enter.run live with
  | (.error error, later) => ((none, .failed error), later)
  | (.ok (), inside) =>
      let ((answer, ending), ended) := body inside
      let (outcome, later) := ended.leave ending
      ((some answer, outcome), later)

/-- Close the channel, unless it was told to close before. -/
def closeChannel : Action (Live Kind) SessionError Unit :=
  fun live =>
    if live.session.isClosed then (.ok (), live)
    else (ask .close).run { live with session := { live.session with isClosed := true } }

/-- Give a session up: its channel is closed, whatever comes of it, and then its directory is
removed. -/
def drop (live : Live Kind) : World :=
  let left := (closeChannel.run live).2
  left.world.removeAll left.session.directory

/-- Exit if need be, close the channel, and give the session up. The outcome is that of the
exit if it failed, else that of the channel. -/
def close (live : Live Kind) : Except SessionError Unit × World :=
  let (exited, left) := exit.run live
  let (closed, shut) := closeChannel.run left
  (match exited with
    | .ok () => closed
    | .error error => .error error, (shut.setPhase .closed).drop)

end Live

end MicroDevice
