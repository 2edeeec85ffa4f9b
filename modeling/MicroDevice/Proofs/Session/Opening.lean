import MicroDevice.Proofs.Build.Leaving
import MicroDevice.Session.Basic

/-! # Sessions that were built

What holds of a session when its builder succeeds (`Session.Opened`): its channel is open, its
runtime is in a temporary directory of its own, and the backend and then the opener were
asked, the latter with the runtime in place.
-/

namespace MicroDevice

variable {Kind : Type}

namespace World

@[simp] theorem journal_note (event : Event) (world : World) :
    (world.note event).journal = world.journal ++ [event] := rfl

@[simp] theorem journal_removeAll (path : Path) (world : World) :
    (world.removeAll path).journal = world.journal := rfl

@[simp] theorem files_removeAll (path : Path) (world : World) :
    (world.removeAll path).files = world.files.removeAll path := rfl

end World

/-- A backend that was asked leaves an event behind, and only changes the workshop. -/
theorem DeviceBackend.request_ok {backend : DeviceBackend} {job : CompileJob}
    {before after : World} (done : (backend.request job).run before = (.ok (), after)) :
    after = { before.note (.compiling backend.deviceId job) with workshop := after.workshop } := by
  obtain ⟨_, noted, asked, compiled⟩ := Action.run_bind_ok done
  cases asked
  exact (World.run_inWorkshop_ok compiled).2

/-- An artifact describes the contents of a file that is there. -/
theorem ObjectArtifact.ofFile_ok {files : FileTree} {path : Path} {artifact : ObjectArtifact}
    (found : ofFile files path = .ok artifact) :
    ∃ contents, files.read path = .ok contents ∧ artifact = ofBytes path contents := by
  unfold ofFile at found
  rcases read : files.read path with fault | contents <;> rw [read] at found
  · cases found
  · cases found
    exact ⟨contents, rfl, rfl⟩

namespace Session

/-- The runtime was compiled into the directory by asking the backend once. -/
theorem compileRuntime_ok {backend : DeviceBackend} {config : DeviceConfig} {directory : Path}
    {before after : World} {runtime : ObjectArtifact}
    (done : (compileRuntime backend config directory).run before = (.ok runtime, after)) :
    runtime.path = directory.join runtimeObjectName ∧
      after.files.contains runtime.path = true ∧
      ∃ job, after.journal = before.journal ++ [.compiling backend.deviceId job] := by
  obtain ⟨source, written, writes, done⟩ := Action.run_bind_ok done
  obtain ⟨_, compiled, compiles, looks⟩ := Action.run_bind_ok done
  obtain ⟨looked, same⟩ := World.run_inWorkshop_ok looks
  obtain ⟨found, unchanged⟩ := Prod.mk.inj looked
  obtain ⟨contents, read, rfl⟩ := ObjectArtifact.ofFile_ok (Action.mapError_eq_ok.mp found)
  refine ⟨rfl, ?_, ?_⟩
  · rw [World.files, ← unchanged]
    exact FileTree.contains_of_read read
  · have noted := DeviceBackend.request_ok compiles
    have untouched := (World.run_inWorkshop_ok writes).2
    rw [same, noted, untouched]
    exact ⟨_, rfl⟩

/-- The opener was asked once, and only the network changed. -/
theorem openChannel_ok {opener : Opener Kind} {params : ChannelParams} {before after : World}
    {channel : Kind} (done : (openChannel opener params).run before = (.ok channel, after)) :
    after.files = before.files ∧
      after.journal = before.journal ++
        [.opening params (before.files.contains params.runtime) true] := by
  obtain ⟨opened, rfl⟩ := Prod.mk.inj done
  simp only [opened, Except.isOk, Except.toBool]
  exact ⟨rfl, rfl⟩

/-- What a build that succeeds went through: the backend was found, the regions and the word size
were checked, a directory was made, the runtime was compiled into it, and the opener was asked. -/
theorem build_ok {setup : SessionSetup Kind} {config : DeviceConfig} {before after : World}
    {session : Session Kind} (built : (build setup config).run before = (.ok session, after)) :
    ∃ regions housed compiled, config.memLayout.requireAll = .ok regions ∧
      config.wordSizeBytes.isOk = true ∧
      (World.inWorkshop ((Workshop.makeTemporary "micrort-session-").widen
        SessionError.io)).run before = (.ok session.directory, housed) ∧
      (compileRuntime session.backend config session.directory).run housed =
        (.ok session.runtime, compiled) ∧
      (openChannel setup.opener (channelParams config regions session.transport
        session.runtime)).run compiled = (.ok session.channel, after) ∧
      session.phase = .channelOpen ∧ session.isClosed = false ∧
      setup.registry.get config.deviceId = .ok session.backend ∧ session.config = config := by
  obtain ⟨_, _, checked, built⟩ := Action.run_bind_ok built
  obtain ⟨-, rfl⟩ := Action.ofResult_ok checked
  obtain ⟨backend, _, gets, built⟩ := Action.run_bind_ok built
  obtain ⟨got, rfl⟩ := Action.ofResult_ok gets
  obtain ⟨regions, _, requires, built⟩ := Action.run_bind_ok built
  obtain ⟨required, rfl⟩ := Action.ofResult_ok requires
  obtain ⟨_, _, sizes, built⟩ := Action.run_bind_ok built
  obtain ⟨sized, rfl⟩ := Action.ofResult_ok sizes
  obtain ⟨directory, housed, makes, built⟩ := Action.run_bind_ok built
  obtain ⟨runtime, compiled, compiles, built⟩ := Action.run_bind_ok (Action.run_orTidy_ok built)
  obtain ⟨transport, _, resolved, built⟩ := Action.run_bind_ok built
  obtain ⟨-, rfl⟩ := Action.ofResult_ok resolved
  obtain ⟨channel, opened, opens, built⟩ := Action.run_bind_ok built
  cases built
  refine ⟨regions, housed, compiled, Action.mapError_eq_ok.mp required, ?_, makes,
    Action.run_widen_ok compiles, opens, rfl, rfl, Action.mapError_eq_ok.mp got, rfl⟩
  rw [Action.mapError_eq_ok.mp sized]
  rfl

/-- What holds of a session that was built in a world, and of the world after it. -/
structure Opened (before : World) (session : Session Kind) (after : World) : Prop where
  phase_eq : session.phase = .channelOpen
  notClosed : session.isClosed = false
  /-- The session has a temporary directory of its own, -/
  directory : ∃ number, session.directory = FileTree.temporaryPath "micrort-session-" number
  /-- in which the runtime is. -/
  runtime_eq : session.runtime.path = session.directory.join runtimeObjectName
  present : after.files.contains session.runtime.path = true
  /-- The backend was asked, and then the opener, with the runtime in place. -/
  journal_eq : ∃ job params, after.journal = before.journal ++
    [.compiling session.backend.deviceId job, .opening params true true]

/-- A session that is built is open. -/
theorem opened_of_build {setup : SessionSetup Kind} {config : DeviceConfig}
    {before after : World} {session : Session Kind}
    (built : (build setup config).run before = (.ok session, after)) :
    session.Opened before after := by
  obtain ⟨regions, housed, compiled, -, -, makes, compiles, opens, phase_eq, notClosed, -⟩ :=
    build_ok built
  obtain ⟨path_eq, present, job, compiling⟩ := compileRuntime_ok compiles
  obtain ⟨files, opening⟩ := openChannel_ok opens
  obtain ⟨made, only⟩ := World.run_inWorkshop_ok makes
  obtain ⟨_, temporary, -⟩ := Workshop.makeTemporary_ok (Action.run_widen_ok made)
  obtain ⟨directory_eq, -, -⟩ := FileTree.makeTemporary_ok (by decide) temporary
  refine ⟨phase_eq, notClosed, ⟨_, directory_eq⟩, path_eq, files ▸ present, ?_⟩
  refine ⟨job, channelParams config regions session.transport session.runtime, ?_⟩
  rw [opening, compiling, only]
  have inPlace : compiled.files.contains
      (channelParams config regions session.transport session.runtime).runtime = true := present
  rw [inPlace, List.append_assoc]
  rfl

end Session

end MicroDevice
