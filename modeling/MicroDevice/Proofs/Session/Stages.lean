import MicroDevice.Proofs.Memory.Regions
import MicroDevice.Proofs.Session.Opening

/-! # The stages of building a session

Each stage of building a session has a fault of its own (`Session.fault?`), told from what the
setup, the configuration and the world say. The checks that the builder makes fail with the first
of the faults they look for.
-/

namespace MicroDevice

variable {Kind : Type}

/-- The stages of building a session. -/
inductive BuildStage where
  | system
  | pointerWidth
  | device
  | regions
  | wordSize
  | directory
  | source
  | compilation
  | artifact
  | method
  | serverAddr
  | serverPort
  | opening
  deriving DecidableEq, Repr

namespace BuildStage

/-- The stages before the directory of the session is there. -/
def early : List BuildStage :=
  [system, pointerWidth, device, regions, wordSize, directory]

/-- The stages that work in the directory of the session. -/
def late : List BuildStage :=
  [source, compilation, artifact, method, serverAddr, serverPort, opening]

/-- Every stage, in order. -/
def all : List BuildStage := early ++ late

end BuildStage

/-- Why a stage fails: the error of the session, and its wording. -/
structure Refusal where
  error : SessionError
  text : String

/-- The error of an outcome that is a failure. -/
def failure? {Error Answer : Type} : Except Error Answer → Option Error
  | .error error => some error
  | .ok _ => none

/-- The first of some stages that fails is one of them, and fails. -/
theorem fault_of_first {Stage : Type} {fault : Stage → Option Refusal} {stages : List Stage}
    {stage : Stage} {refusal : Refusal}
    (first : stages.findSome? (fun stage => (fault stage).map fun refusal => (stage, refusal)) =
      some (stage, refusal)) : stage ∈ stages ∧ fault stage = some refusal := by
  obtain ⟨other, member, found⟩ := List.exists_of_findSome?_eq_some first
  obtain ⟨held, fails, same⟩ := Option.map_eq_some_iff.mp found
  cases same
  exact ⟨member, fails⟩

namespace Session

/-! ## What a build goes through -/

/-- The directory of a session that is built in a world. -/
def workDirectory (before : World) : Path :=
  FileTree.temporaryPath "micrort-session-" before.files.temporaries

/-- What the backend is asked for. -/
def runtimeJob (config : DeviceConfig) (before : World) : CompileJob where
  object := (workDirectory before).join runtimeObjectName
  source := (workDirectory before).join Sources.runtimeName
  libType := .runtime
  options := .ofConfig config

/-- What the opener is asked for. -/
def runtimeParams (config : DeviceConfig) (before : World) : ChannelParams where
  method := if config.commsMethod = "openocd" then .openocd else .host
  runtime := (workDirectory before).join runtimeObjectName
  toolchainPrefix := config.toolchainPrefix
  regions := config.memLayout.regions
  wordSize := config.wordSize
  thumbMode := config.thumbMode
  address := if config.commsMethod = "openocd" then config.serverAddr.getD "" else ""
  port := if config.commsMethod = "openocd" then config.serverPort.getD 0 else 0

/-- The world with the directory of the session. -/
def housed (before : World) : World :=
  ((World.inWorkshop (Workshop.makeTemporary "micrort-session-")).run before).2

/-- The world with the source of the runtime in the directory. -/
def sourced (before : World) : World :=
  ((World.inWorkshop (Sources.writeRuntime (workDirectory before))).run (housed before)).2

/-- The world once a backend was asked for the runtime. -/
def compiled (backend : DeviceBackend) (config : DeviceConfig) (before : World) : World :=
  ((backend.request (runtimeJob config before)).run (sourced before)).2

/-- What makes a stage fail, if anything does. -/
def fault? (setup : SessionSetup Kind) (config : DeviceConfig) (before : World) :
    BuildStage → Option Refusal
  | .system =>
      if setup.host.os = "linux" then none
      else some ⟨.host (.system setup.host.os),
        "unsupported host: " ++ ("only Linux hosts are supported, found '" ++ setup.host.os ++ "'")⟩
  | .pointerWidth =>
      if setup.host.pointerWidth = 64 then none
      else some ⟨.host (.pointerWidth setup.host.pointerWidth), "unsupported host: " ++
        s!"only 64-bit hosts are supported, found {setup.host.pointerWidth.toNat}-bit"⟩
  | .device =>
      if setup.registry.backends.any fun backend => backend.deviceId = config.deviceId then none
      else some ⟨.build (.unknownDevice config.deviceId),
        "no backend registered for device '" ++ config.deviceId ++ "'"⟩
  | .regions =>
      (RegionKind.all.find? fun kind => !config.memLayout.provides kind).map fun kind =>
        ⟨.config (.missingRegion kind),
          "memory layout is missing required region '" ++ kind.name ++ "'"⟩
  | .wordSize =>
      if config.wordSize = 32 ∨ config.wordSize = 64 then none
      else some ⟨.config (.wordSize config.wordSize),
        s!"invalid config field 'word_size': expected 32 or 64, got {config.wordSize.toNat}"⟩
  | .directory =>
      (failure? (before.files.makeTemporary "micrort-session-")).map fun fault =>
        ⟨.io fault, "I/O error: " ++ fault.message⟩
  | .source =>
      (failure? ((Sources.writeRuntime (workDirectory before)).run (housed before).workshop).1).map
        fun error => ⟨.build error, error.message⟩
  | .compilation =>
      (setup.registry.find? config.deviceId).bind fun backend =>
        let work := backend.compile (runtimeJob config before)
        (failure? (work.run (sourced before).workshop).1).map fun error =>
          ⟨.build error, error.message⟩
  | .artifact =>
      (setup.registry.find? config.deviceId).bind fun backend =>
        let object := (runtimeJob config before).object
        (failure? ((compiled backend config before).files.read object)).map fun fault =>
          ⟨.build (.io fault), "I/O error: " ++ fault.message⟩
  | .method =>
      if config.commsMethod = "host" ∨ config.commsMethod = "openocd" then none
      else some ⟨.config (.unknownTransport config.commsMethod),
        "unknown communication method: '" ++ config.commsMethod ++ "'"⟩
  | .serverAddr =>
      if config.commsMethod = "openocd" ∧ config.serverAddr = none then
        some ⟨.config (.missingEndpoint "openocd" .serverAddr),
          "comms method 'openocd' requires 'server_addr' to be set"⟩
      else none
  | .serverPort =>
      if config.commsMethod = "openocd" ∧ config.serverPort = none then
        some ⟨.config (.missingEndpoint "openocd" .serverPort),
          "comms method 'openocd' requires 'server_port' to be set"⟩
      else none
  | .opening =>
      (setup.registry.find? config.deviceId).bind fun backend =>
        let world := compiled backend config before
        let request := setup.opener (runtimeParams config before) world.files
        (failure? (request.run world.network).1).map fun error => ⟨error, error.message⟩

/-- The first of some stages that fails, and why. -/
def firstFault? (setup : SessionSetup Kind) (config : DeviceConfig) (before : World)
    (stages : List BuildStage) : Option (BuildStage × Refusal) :=
  stages.findSome? fun stage =>
    (fault? setup config before stage).map fun refusal => (stage, refusal)

variable {setup : SessionSetup Kind} {config : DeviceConfig} {before : World}

/-- Of two lists of stages the faults of the first come first. -/
theorem firstFault_append (first second : List BuildStage) :
    firstFault? setup config before (first ++ second) =
      (firstFault? setup config before first).or (firstFault? setup config before second) :=
  List.findSome?_append

/-- A stage that fails is the first fault, whatever follows. -/
theorem firstFault_of_fault {stage : BuildStage} {refusal : Refusal}
    (fails : fault? setup config before stage = some refusal) (later : List BuildStage) :
    firstFault? setup config before (stage :: later) = some (stage, refusal) := by
  simp [firstFault?, fails]

/-- A stage that passes leaves the first fault to the later ones. -/
theorem firstFault_of_pass {stage : BuildStage} (passes : fault? setup config before stage = none)
    (later : List BuildStage) :
    firstFault? setup config before (stage :: later) = firstFault? setup config before later := by
  simp [firstFault?, passes]

theorem fault_of_firstFault {stages : List BuildStage} {stage : BuildStage} {refusal : Refusal}
    (first : firstFault? setup config before stages = some (stage, refusal)) :
    stage ∈ stages ∧ fault? setup config before stage = some refusal :=
  fault_of_first first

/-- A stage that fails first among many fails first among those around it. -/
theorem firstFault_within (earlier within later : List BuildStage) {stage : BuildStage}
    {refusal : Refusal}
    (first : firstFault? setup config before (earlier ++ (within ++ later)) = some (stage, refusal))
    (notEarlier : stage ∉ earlier) (notLater : stage ∉ later) :
    firstFault? setup config before within = some (stage, refusal) := by
  rw [firstFault_append, firstFault_append, Option.or_eq_some_iff, Option.or_eq_some_iff] at first
  rcases first with found | ⟨-, found | ⟨-, found⟩⟩
  · exact absurd (fault_of_firstFault found).1 notEarlier
  · exact found
  · exact absurd (fault_of_firstFault found).1 notLater

/-- The text of a fault is the wording of its error. -/
theorem message_of_fault {stage : BuildStage} {refusal : Refusal}
    (fails : fault? setup config before stage = some refusal) :
    refusal.error.message = refusal.text := by
  cases stage <;> simp only [fault?, Option.ite_none_left_eq_some, Option.ite_none_right_eq_some,
    Option.map_eq_some_iff, Option.bind_eq_some_iff, Option.some.injEq] at fails
  all_goals first
    | obtain ⟨-, rfl⟩ := fails
      rfl
    | obtain ⟨_, -, rfl⟩ := fails
      rfl
    | obtain ⟨_, -, _, -, rfl⟩ := fails
      rfl

/-! ## Checks -/

/-- An outcome agrees with some stages: it is the error of the first of them that fails, or an
answer of which something holds. -/
def Agrees (setup : SessionSetup Kind) (config : DeviceConfig) (before : World)
    (stages : List BuildStage) {Answer : Type} (holds : Answer → Prop)
    (result : Except SessionError Answer) : Prop :=
  match firstFault? setup config before stages with
  | some (_, refusal) => result = .error refusal.error
  | none => ∃ answer, result = .ok answer ∧ holds answer

/-- An outcome that agrees with some stages is the error of the first of them that fails. -/
theorem Agrees.fails {stages : List BuildStage} {Answer : Type} {holds : Answer → Prop}
    {result : Except SessionError Answer}
    (agrees : Agrees setup config before stages holds result) {stage : BuildStage}
    {refusal : Refusal} (first : firstFault? setup config before stages = some (stage, refusal)) :
    result = .error refusal.error := by
  rw [Agrees, first] at agrees
  exact agrees

/-- An outcome that agrees with stages none of which fails is an answer. -/
theorem Agrees.passes {stages : List BuildStage} {Answer : Type} {holds : Answer → Prop}
    {result : Except SessionError Answer}
    (agrees : Agrees setup config before stages holds result)
    (first : firstFault? setup config before stages = none) :
    ∃ answer, result = .ok answer ∧ holds answer := by
  rw [Agrees, first] at agrees
  exact agrees

section Checks

-- each check is compared with its stages as both are written
attribute [local simp] Agrees firstFault? fault?

/-- Checking the host agrees with the stages of the operating system and of the pointer width. -/
theorem agrees_check (setup : SessionSetup Kind) (config : DeviceConfig) (before : World) :
    Agrees setup config before [.system, .pointerWidth] (fun _ => True) setup.host.check := by
  by_cases isLinux : setup.host.os = "linux"
  · by_cases is64Bit : setup.host.pointerWidth = 64
    · simp [Host.check, Host.isLinux, Host.is64Bit, isLinux, is64Bit]
    · simp [Host.check, Host.isLinux, Host.is64Bit, isLinux, is64Bit]
  · simp [Host.check, Host.isLinux, isLinux]

/-- No backend is found exactly when none has the id. -/
theorem find_eq_none_iff (registry : Registry) (deviceId : String) :
    registry.find? deviceId = none ↔
      registry.backends.any (fun backend => backend.deviceId = deviceId) = false := by
  rw [Registry.find?, List.find?_eq_none, List.any_eq_false]
  simp

/-- Looking up the backend agrees with the stage of the device. -/
theorem agrees_get (setup : SessionSetup Kind) (config : DeviceConfig) (before : World) :
    Agrees setup config before [.device]
      (fun backend => setup.registry.find? config.deviceId = some backend)
      ((setup.registry.get config.deviceId).mapError .build) := by
  rcases found : setup.registry.find? config.deviceId with _ | backend
  · have unknown := (find_eq_none_iff _ _).mp found
    simp [unknown, Registry.get, found, Except.mapError]
  · have known : setup.registry.backends.any (fun backend => backend.deviceId = config.deviceId) =
        true := by
      rw [← Bool.not_eq_false, ← find_eq_none_iff, found]
      exact Option.some_ne_none backend
    simp [known, Registry.get, found, Except.mapError]

/-- Requiring all regions agrees with the stage of the regions. -/
theorem agrees_requireAll (setup : SessionSetup Kind) (config : DeviceConfig) (before : World) :
    Agrees setup config before [.regions] (fun regions => regions = config.memLayout.regions)
      (config.memLayout.requireAll.mapError .config) := by
  have required := config.memLayout.mapM_require RegionKind.all
  rcases lacking : RegionKind.all.find? fun kind => !config.memLayout.provides kind with _ | kind
  · rw [lacking] at required
    simp [lacking, MemoryLayout.requireAll, required, Except.mapError, MemoryLayout.regions]
  · rw [lacking] at required
    simp [lacking, MemoryLayout.requireAll, required, Except.mapError]

/-- Converting the word size agrees with its stage. -/
theorem agrees_wordSizeBytes (setup : SessionSetup Kind) (config : DeviceConfig)
    (before : World) :
    Agrees setup config before [.wordSize] (fun _ => True)
      (config.wordSizeBytes.mapError .config) := by
  by_cases known : config.wordSize = 32 ∨ config.wordSize = 64
  · simp [known, DeviceConfig.wordSizeBytes, Except.mapError]
  · simp [known, DeviceConfig.wordSizeBytes, Except.mapError]

/-- A transport is resolved to what the opener is asked for. -/
theorem agrees_transport (setup : SessionSetup Kind) (config : DeviceConfig) (before : World) :
    Agrees setup config before [.method, .serverAddr, .serverPort]
      (fun transport => ∀ runtime : ObjectArtifact,
        runtime.path = (runtimeJob config before).object →
          channelParams config config.memLayout.regions transport runtime =
            runtimeParams config before)
      (config.transport.mapError .config) := by
  by_cases onHost : config.commsMethod = "host"
  · simp [onHost, DeviceConfig.transport, DeviceConfig.comms, CommsMethod.ofName,
      Except.mapError, channelParams, runtimeParams, runtimeJob, Transport.method,
      Transport.endpoint]
  · by_cases onServer : config.commsMethod = "openocd"
    · rcases address : config.serverAddr with _ | address
      · simp [onServer, address, DeviceConfig.transport, DeviceConfig.comms, CommsMethod.ofName,
          Except.mapError]
      · rcases port : config.serverPort with _ | port
        · simp [onServer, address, port, DeviceConfig.transport, DeviceConfig.comms,
            CommsMethod.ofName, Except.mapError]
        · simp [onServer, address, port, DeviceConfig.transport, DeviceConfig.comms,
            CommsMethod.ofName, Except.mapError, channelParams, runtimeParams, runtimeJob,
            Transport.method, Transport.endpoint]
    · simp [onHost, onServer, DeviceConfig.transport, DeviceConfig.comms, CommsMethod.ofName,
        Except.mapError]

end Checks

end Session

end MicroDevice
