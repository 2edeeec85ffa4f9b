import MicroDevice.Proofs.Build.Making
import MicroDevice.Proofs.Files.Elsewhere
import MicroDevice.Proofs.Session.Sparing

/-! # What a session leaves in the directory for temporary files

The directory of a session and the scratch directory of its runtime are gone once the build of the
session has failed, or the session is given up. Whatever else is new in the directory for temporary
files was made by a tool (`World.TidiedUp`).
-/

namespace MicroDevice

variable {Kind : Type}

namespace FileTree

variable {tree : FileTree} {name : List Char}

/-- What is directly in the directory for temporary files is held by the tree. -/
theorem holds_temporary (rooted : tree.entry? temporaryRoot = some .directory)
    (held : tree.entry? (temporaryRoot ++ [name]) ≠ none) :
    tree.Holds (temporaryRoot ++ [name]) := by
  refine ⟨fun above isAbove differs => ?_, Option.isSome_iff_ne_none.mpr held⟩
  rcases List.prefix_concat_iff.mp isAbove with same | onTheWay
  · exact absurd same differs
  · rcases List.prefix_cons_iff.mp onTheWay with rfl | ⟨later, rfl, isNil⟩
    · exact tree.entry_root
    · rw [List.prefix_nil.mp isNil]
      exact rooted

/-- There is a directory for temporary files if a directory was made there. -/
theorem entry_temporaryRoot {stem : String} (noSlash : '/' ∉ stem.toList) {path : Path}
    {made : FileTree} (makes : tree.makeTemporary stem = .ok (path, made)) :
    tree.entry? temporaryRoot = some .directory :=
  (rooted_of_makeTemporary noSlash makes).1 temporaryRoot (List.prefix_append _ _)
    (by simp [temporaryLocation])

end FileTree

/-- Writing the runtime source makes no temporary directory. -/
theorem Sources.temporaries_writeRuntime (directory : Path) :
    (writeRuntime directory).Moves fun before after =>
      after.files.temporaries = before.files.temporaries := by
  intro workshop
  rw [writeRuntime, Action.run_bind, Workshop.run_write]
  rcases writes : workshop.files.write (directory.join runtimeName) (Text.encode runtimeText) with
    fault | files
  · rfl
  · obtain ⟨_, -, -, rfl⟩ := FileTree.write_ok writes
    rfl

namespace Session

/-- The directory in which the runtime of a session is compiled. -/
def scratchDirectory (before : World) : Path :=
  FileTree.temporaryPath ".tmp" (before.files.temporaries + 1)

/-- What is done in the workshop for the runtime of a session. -/
def runtimeWork (backend : DeviceBackend) (config : DeviceConfig) (directory : Path) :
    Action Workshop BuildError Unit := do
  let source ← Sources.writeRuntime directory
  backend.compile ⟨directory.join runtimeObjectName, source, .runtime, .ofConfig config⟩

/-- Compiling the runtime leaves the workshop as the work on the runtime does. -/
theorem workshop_compileRuntime (backend : DeviceBackend) (config : DeviceConfig)
    (directory : Path) (world : World) :
    ((compileRuntime backend config directory).run world).2.workshop =
      ((runtimeWork backend config directory).run world.workshop).2 := by
  rw [compileRuntime, runtimeWork, Action.run_bind, Action.run_bind, World.run_inWorkshop]
  rcases (Sources.writeRuntime directory).run world.workshop with ⟨error | source, staged⟩
  · rfl
  · dsimp only
    rw [Action.run_bind, DeviceBackend.request, Action.run_bind, Action.run_change]
    dsimp only
    rw [World.run_inWorkshop]
    rw [World.workshop_note]
    rcases (backend.compile ⟨directory.join runtimeObjectName, source, .runtime,
      .ofConfig config⟩).run staged with ⟨error | _, compiled⟩ <;> rfl

/-- All that is done in the workshop in the directory of a session is done for its runtime. -/
theorem workshop_buildIn (setup : SessionSetup Kind) (backend : DeviceBackend)
    (config : DeviceConfig) (regions : List MemoryRegion) (directory : Path) (world : World) :
    ((buildIn setup backend config regions directory).run world).2.workshop =
      ((runtimeWork backend config directory).run world.workshop).2 := by
  rw [← workshop_compileRuntime, buildIn, Action.run_bind, Action.run_widen]
  rcases (compileRuntime backend config directory).run world with ⟨error | runtime, compiled⟩
  · rfl
  · dsimp only [Except.mapError]
    rw [Action.run_bind, Action.run_ofResult]
    rcases config.transport with error | transport
    · rfl
    · dsimp only
      rw [Action.run_bind]
      have opens : ((openChannel setup.opener (channelParams config regions transport
          runtime)).run compiled).2.workshop = compiled.workshop := rfl
      rcases ran : (openChannel setup.opener (channelParams config regions transport
        runtime)).run compiled with ⟨error | channel, opened⟩ <;> rw [ran] at opens <;> exact opens

/-- Building in a directory leaves the workshop as the work on the runtime does, whatever the opener
answers. -/
theorem workshop_of_buildIn {setup : SessionSetup Kind} {backend : DeviceBackend}
    {config : DeviceConfig} {regions : List MemoryRegion} {directory : Path} {before after : World}
    {result : Except SessionError (Session Kind)}
    (ran : (buildIn setup backend config regions directory).run before = (result, after)) :
    after.workshop = ((runtimeWork backend config directory).run before.workshop).2 := by
  rw [← workshop_buildIn setup backend config regions directory before, ran]

/-- A build stops at its checks, in the world it began with, or it makes the directory of the
session and goes on in there. -/
theorem run_build_cases (setup : SessionSetup Kind) (config : DeviceConfig) (before : World) :
    (∃ error, (build setup config).run before = (.error error, before)) ∨
      ∃ backend regions files, setup.registry.find? config.deviceId = some backend ∧
        before.files.makeTemporary "micrort-session-" = .ok (workDirectory before, files) ∧
        (build setup config).run before =
          ((buildIn setup backend config regions (workDirectory before)).orTidy
            (World.removeAll (workDirectory before))).run
              { before with workshop := { before.workshop with files } } := by
  rw [build, Action.run_bind, Action.run_ofResult]
  rcases setup.host.check with error | _
  · exact .inl ⟨_, rfl⟩
  · dsimp only
    rw [Action.run_bind, Action.run_ofResult, Registry.get]
    rcases setup.registry.find? config.deviceId with _ | backend
    · exact .inl ⟨_, rfl⟩
    · dsimp only [Except.mapError]
      rw [Action.run_bind, Action.run_ofResult]
      rcases config.memLayout.requireAll with error | regions
      · exact .inl ⟨_, rfl⟩
      · dsimp only
        rw [Action.run_bind, Action.run_ofResult]
        rcases config.wordSizeBytes with error | size
        · exact .inl ⟨_, rfl⟩
        · dsimp only
          rw [Action.run_bind, World.run_inWorkshop, Action.run_widen, Workshop.run_makeTemporary]
          rcases makes : before.workshop.files.makeTemporary "micrort-session-" with
            fault | ⟨directory, files⟩
          · exact .inl ⟨_, rfl⟩
          · obtain ⟨rfl, -, -⟩ := FileTree.makeTemporary_ok (by decide) makes
            exact .inr ⟨backend, regions, files, rfl, makes, rfl⟩

/-- In the directory for temporary files there is only what was there before or was made by a
tool, and of the directories of a session only what was there before. -/
def TidiedUp (before after : World) : Prop :=
  ∀ path name, path.Spells (FileTree.temporaryRoot ++ [name]) →
    after.files.contains path = true →
      before.files.contains path = true ∨
        path ≠ workDirectory before ∧ path ≠ scratchDirectory before ∧
          before.workshop.toolbox.Makes (FileTree.temporaryRoot ++ [name])

/-- A world with the same files is tidied up. -/
theorem tidiedUp_of_files {before after : World} (same : after.files = before.files) :
    TidiedUp before after := by
  intro path name _ present
  exact .inl (same ▸ present)

/-- After the work for the runtime in a directory, what is new beside that directory was made by a
tool, and it is not the scratch directory. -/
theorem contains_of_runtimeWork {family : ToolchainFamily}
    (isBuiltin : family ∈ ToolchainFamily.builtins) {host : Host} {config : DeviceConfig}
    {directory path : Path} {place : Location} {name : List Char} (placed : directory.Spells place)
    (named : place ≠ []) (spells : path.Spells (FileTree.temporaryRoot ++ [name]))
    (apart : FileTree.Apart (FileTree.temporaryRoot ++ [name]) place) {workshop : Workshop}
    (present : ((runtimeWork (family.backend host) config directory).run
      workshop).2.files.contains path = true) :
    workshop.files.entry? (FileTree.temporaryRoot ++ [name]) ≠ none ∨
      path ≠ FileTree.temporaryPath ".tmp" workshop.files.temporaries ∧
        workshop.toolbox.Makes (FileTree.temporaryRoot ++ [name]) := by
  have spares := Sources.spares_writeRuntime placed named apart workshop
  have count := Sources.temporaries_writeRuntime directory workshop
  rw [runtimeWork, Action.run_bind] at present
  rcases ran : (Sources.writeRuntime directory).run workshop with ⟨error | source, staged⟩ <;>
    rw [ran] at present spares count
  · left
    rw [← spares.entry_eq]
    exact FileTree.entry_of_contains spells present
  · have areNames := ToolchainFamily.isFileName_of_builtins family isBuiltin
    have compiled : ((family.compile host ⟨directory.join runtimeObjectName, source, .runtime,
      .ofConfig config⟩).run staged).2.files.contains path = true := present
    have made := ToolchainFamily.contains_of_compile areNames rfl spells compiled
    rwa [spares.entry_eq, spares.toolbox_eq, count] at made

/-- Once the directory of a session is removed, nothing is left of the work for its runtime. -/
theorem tidiedUp_of_runtimeWork {family : ToolchainFamily}
    (isBuiltin : family ∈ ToolchainFamily.builtins) (host : Host) (config : DeviceConfig)
    {before after : World} {files : FileTree}
    (makes : before.files.makeTemporary "micrort-session-" = .ok (workDirectory before, files))
    (left : after.files =
      ((runtimeWork (family.backend host) config (workDirectory before)).run
        { before.workshop with files }).2.files.removeAll (workDirectory before)) :
    TidiedUp before after := by
  intro path name spells present
  rw [left] at present
  have named := FileTree.temporaryLocation_ne "micrort-session-" before.files.temporaries
  have spelled : (workDirectory before).Spells
      (FileTree.temporaryLocation "micrort-session-" before.files.temporaries) :=
    FileTree.spells_temporary (by decide) _
  have still := FileTree.contains_of_removeAll spells present
  have apart : path ≠ workDirectory before := by
    rintro rfl
    exact absurd (present.symm.trans (FileTree.contains_removeAll _ spelled named)) (by decide)
  have differs : FileTree.temporaryRoot ++ [name] ≠
      FileTree.temporaryLocation "micrort-session-" before.files.temporaries := by
    intro same
    rw [same] at spells
    exact apart (spells.eq_of_spells spelled named)
  obtain ⟨-, -, made⟩ := FileTree.makeTemporary_ok (by decide) makes
  rcases contains_of_runtimeWork isBuiltin spelled named spells (FileTree.apart_of_ne differs)
    still with held | ⟨isNotScratch, byTool⟩
  · left
    rw [made, FileTree.entry_put_of_ne _ differs] at held
    have rooted := FileTree.entry_temporaryRoot (by decide) makes
    exact (before.files.contains_iff_holds spells).mpr
      ⟨((FileTree.contains_iff_holds _ spells).mp still).1, FileTree.holds_temporary rooted held⟩
  · right
    rw [made] at isNotScratch
    exact ⟨apart, isNotScratch, byTool⟩

/-- A session that is built in a directory owns it. -/
theorem directory_of_buildIn {setup : SessionSetup Kind} {backend : DeviceBackend}
    {config : DeviceConfig} {regions : List MemoryRegion} {directory : Path}
    {before opened : World} {session : Session Kind}
    (built : (buildIn setup backend config regions directory).run before = (.ok session, opened)) :
    session.directory = directory := by
  obtain ⟨runtime, _, -, built⟩ := Action.run_bind_ok built
  obtain ⟨transport, _, -, built⟩ := Action.run_bind_ok built
  obtain ⟨channel, _, -, built⟩ := Action.run_bind_ok built
  cases built
  rfl

section Builtins

variable {host : Host} {opener : Opener Kind} {config : DeviceConfig} {before : World}

/-- A build that fails leaves nothing behind. -/
theorem tidiedUp_of_build_error {error : SessionError} {after : World}
    (failed : (build ⟨Registry.builtins host, host, opener⟩ config).run before =
      (.error error, after)) : TidiedUp before after := by
  rcases run_build_cases ⟨Registry.builtins host, host, opener⟩ config before with
    ⟨_, ran⟩ | ⟨backend, regions, files, found, makes, ran⟩
  · obtain ⟨-, rfl⟩ := Prod.mk.inj (failed.symm.trans ran)
    exact tidiedUp_of_files rfl
  · obtain ⟨family, isBuiltin, -, rfl⟩ := Registry.family_of_builtins found
    rw [ran, Action.run_orTidy] at failed
    split at failed
    · cases failed
    · rename_i fault later built
      obtain ⟨-, rfl⟩ := Prod.mk.inj failed
      apply tidiedUp_of_runtimeWork isBuiltin host config makes
      rw [World.files_removeAll, World.files, workshop_of_buildIn built]

/-- A session that is given up leaves nothing behind once its directory is removed. -/
theorem tidiedUp_of_build_ok {session : Session Kind} {opened last : World}
    (built : (build ⟨Registry.builtins host, host, opener⟩ config).run before =
      (.ok session, opened))
    (left : last.files = opened.files.removeAll session.directory) : TidiedUp before last := by
  rcases run_build_cases ⟨Registry.builtins host, host, opener⟩ config before with
    ⟨_, ran⟩ | ⟨backend, regions, files, found, makes, ran⟩
  · cases built.symm.trans ran
  · obtain ⟨family, isBuiltin, -, rfl⟩ := Registry.family_of_builtins found
    have within := Action.run_orTidy_ok (ran.symm.trans built)
    apply tidiedUp_of_runtimeWork isBuiltin host config makes
    rw [left, directory_of_buildIn within, World.files, workshop_of_buildIn within]

end Builtins

end Session

end MicroDevice
