import MicroDevice.Proofs.Object.Loading
import MicroDevice.Proofs.Session.Building
import MicroDevice.Proofs.Session.Stopping

/-! # Where the creation of a module stops

The creation of a module goes through six stages up to the first that fails, and fails with the
fault of that stage (`Creation.ends_createModule`). The directory is made before the name of the
module is looked at, so all but the first two stages fail with a directory to remove.
-/

namespace MicroDevice

/-- The stages of creating a module. -/
inductive ModuleStage where
  | device
  | directory
  | name
  | source
  | compilation
  | loading
  deriving DecidableEq, Repr

namespace ModuleStage

/-- The stages before the directory of the module is there. -/
def early : List ModuleStage := [device, directory]

/-- The stages that work in the directory of the module. -/
def late : List ModuleStage := [name, source, compilation, loading]

/-- Every stage, in order. -/
def all : List ModuleStage := early ++ late

end ModuleStage

namespace World

theorem workshop_note (event : Event) (world : World) :
    (world.note event).workshop = world.workshop := rfl

end World

namespace CrossCompiler

variable {registry : Registry} {config : DeviceConfig}

/-- No cross compiler is made for an unknown device. -/
theorem make_of_unknown (unknown : registry.find? config.deviceId = none) (libType : LibType) :
    make registry config libType = .error (.unknownDevice config.deviceId) := by
  simp only [make, Registry.get, unknown, bind, Except.bind]

/-- A cross compiler for a registered device has its backend and the options of the
configuration. -/
theorem make_of_found {backend : DeviceBackend}
    (found : registry.find? config.deviceId = some backend) (libType : LibType) :
    make registry config libType = .ok (.ofConfig backend config libType) := by
  simp only [make, Registry.get, found, bind, Except.bind, pure, Except.pure]

end CrossCompiler

namespace Creation

/-! ## What a creation goes through -/

/-- The directory of a module that is created in a world. -/
def workDirectory (before : World) : Path :=
  FileTree.temporaryPath "micrort-mod-" before.files.temporaries

/-- Where the library of the module goes. -/
def library (before : World) : Path :=
  (workDirectory before).join libraryName

/-- Where the source of the module goes. -/
def source (module : SourceModule) (before : World) : Path :=
  (workDirectory before).join (module.name ++ ".c")

/-- What the export step is asked for. -/
def request (module : SourceModule) (before : World) : ExportRequest :=
  ⟨.one (library before), .many [source module before], none⟩

/-- What the backend is asked for. -/
def job (module : SourceModule) (config : DeviceConfig) (before : World) : CompileJob where
  object := library before
  source := source module before
  libType := .operator
  options := .ofConfig config

/-- The world with the directory of the module. -/
def housed (before : World) : World :=
  ((World.inWorkshop (Workshop.makeTemporary "micrort-mod-")).run before).2

/-- The world with the source of the module in the directory. -/
def sourced (module : SourceModule) (before : World) : World :=
  ((World.inWorkshop (Workshop.put (source module before) (Text.encode module.source))).run
    (housed before)).2

/-- The world once a backend was asked for the library. -/
def compiled (backend : DeviceBackend) (module : SourceModule) (config : DeviceConfig)
    (before : World) : World :=
  ((backend.request (job module config before)).run
    ((sourced module before).note (.exporting (request module before)))).2

/-- What makes a stage fail, if anything does. -/
def fault? (registry : Registry) (module : SourceModule) (config : DeviceConfig)
    (before : World) : ModuleStage → Option Refusal
  | .device =>
      if registry.backends.any fun backend => backend.deviceId = config.deviceId then none
      else some ⟨.build (.unknownDevice config.deviceId),
        "no backend registered for device '" ++ config.deviceId ++ "'"⟩
  | .directory =>
      (failure? (before.files.makeTemporary "micrort-mod-")).map fun fault =>
        ⟨.io fault, "I/O error: " ++ fault.message⟩
  | .name =>
      if SourceModule.isPlainName module.name then none
      else some ⟨.build (.argument (.moduleName module.name)), "invalid argument: " ++
        ("module name '" ++ module.name ++ "' must be a plain file name")⟩
  | .source =>
      (failure? ((housed before).files.write (source module before)
        (Text.encode module.source))).map fun fault => ⟨.io fault, "I/O error: " ++ fault.message⟩
  | .compilation =>
      (registry.find? config.deviceId).bind fun backend =>
        let work := backend.compile (job module config before)
        (failure? (work.run (sourced module before).workshop).1).map fun error =>
          ⟨.build error, error.message⟩
  | .loading =>
      (registry.find? config.deviceId).bind fun backend =>
        let files := (compiled backend module config before).files
        (loadFault? files (library before)).map fun fault =>
          ⟨.load (library before) fault,
            "failed to load module " ++ (library before).text ++ ": " ++ fault.message⟩

/-- The first of some stages that fails, and why. -/
def firstFault? (registry : Registry) (module : SourceModule) (config : DeviceConfig)
    (before : World) (stages : List ModuleStage) : Option (ModuleStage × Refusal) :=
  stages.findSome? fun stage =>
    (fault? registry module config before stage).map fun refusal => (stage, refusal)

/-- What is asked for in all. -/
def requests (module : SourceModule) (config : DeviceConfig) (before : World) : List Event :=
  [.exporting (request module before),
    .compiling config.deviceId (job module config before)]

/-- What is asked for when a stage is the first to fail. -/
def asked (module : SourceModule) (config : DeviceConfig) (before : World) :
    ModuleStage → List Event
  | .compilation | .loading => requests module config before
  | _ => []

variable {registry : Registry} {module : SourceModule} {config : DeviceConfig} {before : World}
  {backend : DeviceBackend}

/-- The text of a fault is the wording of its error. -/
theorem message_of_fault {stage : ModuleStage} {refusal : Refusal}
    (fails : fault? registry module config before stage = some refusal) :
    refusal.error.message = refusal.text := by
  cases stage <;> simp only [fault?, Option.ite_none_left_eq_some, Option.map_eq_some_iff,
    Option.bind_eq_some_iff, Option.some.injEq] at fails
  case device | name =>
    obtain ⟨-, rfl⟩ := fails
    rfl
  case directory | source =>
    obtain ⟨_, -, rfl⟩ := fails
    rfl
  case compilation | loading =>
    obtain ⟨_, -, _, -, rfl⟩ := fails
    rfl

/-! ## Outcomes -/

section Ends

variable (registry module config before)

/-- An outcome goes with some stages: it is the fault of the first of them that fails, or a module
of which something holds. Either way something holds of the world that is left. -/
structure Ends (stages : List ModuleStage) (stopped : ModuleStage → World → Prop)
    (done : MicroModule → World → Prop) (outcome : Except SessionError MicroModule × World) :
    Prop where
  ends : match firstFault? registry module config before stages with
    | some (stage, refusal) => outcome.1 = .error refusal.error ∧ stopped stage outcome.2
    | none => ∃ loaded, outcome.1 = .ok loaded ∧ done loaded outcome.2

variable {registry module config before} {stopped : ModuleStage → World → Prop}
  {done : MicroModule → World → Prop} {stage : ModuleStage} {later : List ModuleStage}
  {outcome : Except SessionError MicroModule × World}

/-- A stage that fails first ends the creation with its own error. -/
theorem ends_of_fault {refusal : Refusal} {left : World}
    (fails : fault? registry module config before stage = some refusal)
    (failed : outcome = (.error refusal.error, left)) (isStopped : stopped stage left) :
    Ends registry module config before (stage :: later) stopped done outcome := by
  have first : firstFault? registry module config before (stage :: later) =
      some (stage, refusal) := by
    simp [firstFault?, fails]
  constructor
  rw [first, failed]
  exact ⟨rfl, isStopped⟩

/-- A stage that passes leaves the ending to the later ones. -/
theorem ends_of_pass (passes : fault? registry module config before stage = none)
    (ends : Ends registry module config before later stopped done outcome) :
    Ends registry module config before (stage :: later) stopped done outcome := by
  have first : firstFault? registry module config before (stage :: later) =
      firstFault? registry module config before later := by
    simp [firstFault?, passes]
  constructor
  rw [first]
  exact ends.ends

/-- When no stage is left, a module has been created. -/
theorem ends_of_all {loaded : MicroModule} {left : World} (succeeded : outcome = (.ok loaded, left))
    (isDone : done loaded left) : Ends registry module config before [] stopped done outcome := by
  rw [succeeded]
  exact ⟨⟨loaded, rfl, isDone⟩⟩

end Ends

/-! ## The stages in the directory of a module -/

/-- What holds of the world when a stage is the first to fail and the directory of the module is
still there. -/
def Untidy (module : SourceModule) (config : DeviceConfig) (before : World) (stage : ModuleStage)
    (left : World) : Prop :=
  left.journal = before.journal ++ asked module config before stage

/-- What holds of a module that was created in a world, and of the world after it. -/
structure Made (module : SourceModule) (config : DeviceConfig) (before : World)
    (loaded : MicroModule) (after : World) : Prop where
  /-- The module owns the directory that was made for it, -/
  directory_eq : loaded.directory = some (workDirectory before)
  /-- and its library is the file there, known by its size and digest. -/
  artifact : ∃ contents, after.files.read (library before) = .ok contents ∧
    loaded.artifact = .ofBytes (library before) contents
  journal_eq : after.journal = before.journal ++ requests module config before

/-- The path of the module's directory spells a location. -/
theorem spells_workDirectory (before : World) :
    (workDirectory before).Spells
      (FileTree.temporaryLocation "micrort-mod-" before.files.temporaries) :=
  FileTree.spells_temporary (by decide) _

/-- The source of a module is written beside its library. -/
theorem sourcePath_library (module : SourceModule) (before : World) :
    module.sourcePath (library before) = source module before := by
  have parent : (library before).parent? = some (workDirectory before) :=
    (spells_workDirectory before).parent_join (FileTree.temporaryLocation_ne _ _) (by decide)
      (by decide)
  rw [SourceModule.sourcePath, parent]
  rfl

theorem journal_sourced (module : SourceModule) (before : World) :
    (sourced module before).journal = before.journal := by
  rw [sourced, World.journal_run_inWorkshop, housed, World.journal_run_inWorkshop]

/-- Nothing is asked for before the source of the module is written. -/
theorem untidy_housed {stage : ModuleStage} (unasked : asked module config before stage = []) :
    Untidy module config before stage (housed before) := by
  rw [Untidy, unasked, List.append_nil, housed, World.journal_run_inWorkshop]

/-- Compiling the module asks for its object once the source could be written. -/
theorem journal_compiled (found : registry.find? config.deviceId = some backend)
    (module : SourceModule) (before : World) :
    (compiled backend module config before).journal =
      before.journal ++ requests module config before := by
  have known : backend.deviceId = config.deviceId := by simpa using List.find?_some found
  rw [compiled, Session.journal_request, World.journal_note, journal_sourced, known,
    List.append_assoc]
  rfl

/-- Load the library that is in the directory of a module. -/
def load (directory : Path) : Action World SessionError MicroModule := do
  let loaded ← World.look fun files => loadObject files (directory.join libraryName)
  return { loaded with directory := some directory }

/-- The last stage loads the library from the directory of the module, or fails as it says. -/
theorem ends_loading (found : registry.find? config.deviceId = some backend) :
    Ends registry module config before [.loading] (Untidy module config before)
      (Made module config before)
      ((load (workDirectory before)).run (compiled backend module config before)) := by
  have journal := journal_compiled found module before
  have fault : fault? registry module config before .loading =
      (loadFault? (compiled backend module config before).files (library before)).map
        fun fault => ⟨.load (library before) fault,
          "failed to load module " ++ (library before).text ++ ": " ++ fault.message⟩ := by
    simp only [fault?, found, Option.bind_some]
  generalize compiled backend module config before = world at journal fault ⊢
  rcases loads : loadFault? world.files (library before) with _ | refused
  · obtain ⟨loaded, contents, succeeds, read, artifact_eq⟩ := loadObject_of_no_fault loads
    have looked : (World.look fun files => loadObject files (library before)).run world =
        (.ok loaded, world) := Prod.ext succeeds rfl
    rw [loads] at fault
    refine ends_of_pass fault (ends_of_all (Action.run_bind_of_ok looked _) ?_)
    exact ⟨rfl, ⟨contents, read, artifact_eq⟩, journal⟩
  · have looked : (World.look fun files => loadObject files (library before)).run world =
        (.error (.load (library before) refused), world) :=
      Prod.ext (loadObject_of_fault loads) rfl
    rw [loads] at fault
    exact ends_of_fault fault (Action.run_bind_of_error looked _) journal

/-- Ask the export step of a backend for the library of a module. -/
def build (backend : DeviceBackend) (module : SourceModule) (config : DeviceConfig)
    (before : World) : Action World SessionError Unit :=
  ((CrossCompiler.ofConfig backend config .operator).exportCompiler.request
    (request module before)).widen .build

/-- The export step passes the request on to the backend, once. -/
theorem run_build (backend : DeviceBackend) (module : SourceModule) (config : DeviceConfig)
    (before world : World) :
    (build backend module config before).run world =
      let asked := (backend.request (job module config before)).run
        (world.note (.exporting (request module before)))
      (asked.1.mapError .build, asked.2) := rfl

/-- Compiling the library and loading it, once its source is written. -/
theorem ends_compilation (found : registry.find? config.deviceId = some backend) :
    Ends registry module config before [.compilation, .loading] (Untidy module config before)
      (Made module config before)
      ((build backend module config before >>= fun _ => load (workDirectory before)).run
        (sourced module before)) := by
  have journal := journal_compiled found module before
  have loading := @ends_loading registry module config before backend found
  have built := run_build backend module config before (sourced module before)
  have fault : fault? registry module config before .compilation =
      (failure? ((backend.request (job module config before)).run
        ((sourced module before).note (.exporting (request module before)))).1).map
          fun error => ⟨.build error, error.message⟩ := by
    simp only [fault?, found, Option.bind_some, Session.request_answer, World.workshop_note]
  rw [compiled] at journal loading
  rcases ran : (backend.request (job module config before)).run
    ((sourced module before).note (.exporting (request module before))) with ⟨error | _, left⟩
  · rw [ran] at fault built journal
    exact ends_of_fault fault (Action.run_bind_of_error built _) journal
  · rw [ran] at fault built loading
    refine ends_of_pass fault ?_
    rw [Action.run_bind_of_ok built]
    exact loading

/-- Write the source of a module. -/
def write (module : SourceModule) (before : World) : Action World SessionError Unit :=
  World.inWorkshop ((Workshop.put (source module before) (Text.encode module.source)).widen .io)

/-- Writing the source of a module, compiling it and loading the library. -/
theorem ends_source (found : registry.find? config.deviceId = some backend) :
    Ends registry module config before [.source, .compilation, .loading]
      (Untidy module config before) (Made module config before)
      ((write module before >>= fun _ => build backend module config before >>= fun _ =>
        load (workDirectory before)).run (housed before)) := by
  have fault : fault? registry module config before .source =
      (failure? ((housed before).files.write (source module before)
        (Text.encode module.source))).map fun fault =>
          ⟨.io fault, "I/O error: " ++ fault.message⟩ := by
    simp only [fault?]
  rcases writes : (housed before).files.write (source module before)
    (Text.encode module.source) with unwritten | files <;> rw [writes] at fault
  · have failed : (write module before).run (housed before) =
        (.error (.io unwritten), housed before) := by
      rw [write, World.inWorkshop_widen, Action.run_widen, World.run_put_of_error writes,
        Except.mapError]
    exact ends_of_fault fault (Action.run_bind_of_error failed _) (untidy_housed rfl)
  · have succeeded : (write module before).run (housed before) =
        (.ok (), sourced module before) := by
      rw [write, World.inWorkshop_widen, Action.run_widen, sourced, World.run_put_eq writes,
        Except.mapError]
    refine ends_of_pass fault ?_
    rw [Action.run_bind_of_ok succeeded]
    exact ends_compilation found

/-- What is built in the directory of a module goes through the late stages. -/
theorem ends_buildModuleIn (found : registry.find? config.deviceId = some backend) :
    Ends registry module config before ModuleStage.late (Untidy module config before)
      (Made module config before)
      ((buildModuleIn (CrossCompiler.ofConfig backend config .operator).exportCompiler loadObject
        module (workDirectory before)).run (housed before)) := by
  have parts : buildModuleIn (CrossCompiler.ofConfig backend config .operator).exportCompiler
      loadObject module (workDirectory before) =
        (module.exportLibrary (library before)
          (CrossCompiler.ofConfig backend config .operator).exportCompiler >>= fun _ =>
            load (workDirectory before)) := rfl
  rw [parts, SourceModule.exportLibrary]
  by_cases plain : SourceModule.isPlainName module.name = true
  · have passes : fault? registry module config before .name = none := by
      rw [fault?, if_pos plain]
    rw [if_pos plain, sourcePath_library, Action.bind_bind]
    exact ends_of_pass passes (ends_source found)
  · have fails : fault? registry module config before .name =
        some ⟨.build (.argument (.moduleName module.name)), "invalid argument: " ++
          ("module name '" ++ module.name ++ "' must be a plain file name")⟩ := by
      rw [fault?, if_neg plain]
    have failed : (Action.fail (.build (.argument (.moduleName module.name))) :
        Action World SessionError Unit).run (housed before) =
          (.error (.build (.argument (.moduleName module.name))), housed before) := by
      rw [Action.fail, Action.run_ofResult]
    rw [if_neg plain]
    exact ends_of_fault fails (Action.run_bind_of_error failed _) (untidy_housed rfl)

/-! ## All stages -/

/-- What holds of the world when a stage is the first to fail: it is as before as long as no
directory was made, and after that the directory is gone. -/
def Stopped (module : SourceModule) (config : DeviceConfig) (before : World) (stage : ModuleStage)
    (left : World) : Prop :=
  Untidy module config before stage left ∧
    if stage ∈ ModuleStage.early then left = before
    else left.files.contains (workDirectory before) = false

theorem fault_of_firstFault {stages : List ModuleStage} {stage : ModuleStage} {refusal : Refusal}
    (first : firstFault? registry module config before stages = some (stage, refusal)) :
    stage ∈ stages ∧ fault? registry module config before stage = some refusal :=
  fault_of_first first

/-- An early stage that asks for nothing stops with the world as it was. -/
theorem stopped_before {stage : ModuleStage}
    (unasked : asked module config before stage = []) (isEarly : stage ∈ ModuleStage.early) :
    Stopped module config before stage before := by
  rw [Stopped, Untidy, unasked, List.append_nil, if_pos isEarly]
  exact ⟨rfl, rfl⟩

/-- Once its directory is removed, a creation that failed in there is stopped. -/
theorem Untidy.stopped {stage : ModuleStage} {left : World}
    (untidy : Untidy module config before stage left) (isLate : stage ∈ ModuleStage.late) :
    Stopped module config before stage (left.removeAll (workDirectory before)) := by
  have apart : ∀ late ∈ ModuleStage.late, late ∉ ModuleStage.early := by decide
  have notEarly := apart stage isLate
  refine ⟨untidy, ?_⟩
  rw [if_neg notEarly, World.files_removeAll]
  exact left.files.contains_removeAll (spells_workDirectory before)
    (FileTree.temporaryLocation_ne _ _)

/-- The directory is removed after a failure, and left to the module otherwise. -/
theorem Ends.orTidy {action : Action World SessionError MicroModule} {world : World}
    (ends : Ends registry module config before ModuleStage.late (Untidy module config before)
      (Made module config before) (action.run world)) :
    Ends registry module config before ModuleStage.late (Stopped module config before)
      (Made module config before)
      ((action.orTidy (World.removeAll (workDirectory before))).run world) := by
  obtain ⟨result, left, ran⟩ : ∃ result left, action.run world = (result, left) := ⟨_, _, rfl⟩
  have ends := ends.ends
  constructor
  rw [ran] at ends
  rcases first : firstFault? registry module config before ModuleStage.late with
    _ | ⟨stage, refusal⟩ <;> rw [first] at ends
  · obtain ⟨loaded, rfl, made⟩ := ends
    rw [Action.run_orTidy_of_ok ran]
    exact ⟨loaded, rfl, made⟩
  · obtain ⟨rfl, untidy⟩ := ends
    rw [Action.run_orTidy_of_error ran]
    exact ⟨rfl, untidy.stopped (fault_of_firstFault first).1⟩

/-- Building a module goes through its directory and the stages in it, and stops at the first
fault. -/
theorem ends_buildModule (found : registry.find? config.deviceId = some backend) :
    Ends registry module config before (.directory :: ModuleStage.late)
      (Stopped module config before) (Made module config before)
      ((buildModule (CrossCompiler.ofConfig backend config .operator).exportCompiler loadObject
        module).run before) := by
  have fault : fault? registry module config before .directory =
      (failure? (before.files.makeTemporary "micrort-mod-")).map fun fault =>
        ⟨.io fault, "I/O error: " ++ fault.message⟩ := by
    simp only [fault?]
  rw [buildModule, World.inWorkshop_widen]
  rcases makes : before.files.makeTemporary "micrort-mod-" with unmade | ⟨path, files⟩ <;>
    rw [makes] at fault
  · have failed : ((World.inWorkshop (Workshop.makeTemporary "micrort-mod-")).widen
        SessionError.io).run before = (.error (.io unmade), before) := by
      rw [Action.run_widen, World.run_inWorkshop,
        Workshop.run_makeTemporary_of_error before.workshop makes, Except.mapError]
    simp only [failure?, Option.map_some] at fault
    exact ends_of_fault fault (Action.run_bind_of_error failed _) (stopped_before rfl (by decide))
  · obtain ⟨path_eq, -, -⟩ := FileTree.makeTemporary_ok (by decide) makes
    have made : ((World.inWorkshop (Workshop.makeTemporary "micrort-mod-")).run before).1 =
        .ok (workDirectory before) := by
      rw [World.run_inWorkshop, Workshop.run_makeTemporary_of_ok before.workshop makes, path_eq,
        workDirectory]
    have succeeded : ((World.inWorkshop (Workshop.makeTemporary "micrort-mod-")).widen
        SessionError.io).run before = (.ok (workDirectory before), housed before) := by
      rw [Action.run_widen, made, housed, Except.mapError]
    simp only [failure?, Option.map_none] at fault
    refine ends_of_pass fault ?_
    rw [Action.run_bind_of_ok succeeded]
    exact (ends_buildModuleIn found).orTidy

/-- Creating a module goes through all stages. -/
theorem ends_createModule (registry : Registry) (module : SourceModule) (config : DeviceConfig)
    (before : World) :
    Ends registry module config before ModuleStage.all (Stopped module config before)
      (Made module config before)
      ((createModule registry loadObject module config).run before) := by
  have order : ModuleStage.all = .device :: .directory :: ModuleStage.late := rfl
  rw [createModule, order]
  rcases found : registry.find? config.deviceId with _ | backend
  · have unknown := (Session.find_eq_none_iff _ _).mp found
    have fails : fault? registry module config before .device =
        some ⟨.build (.unknownDevice config.deviceId),
          "no backend registered for device '" ++ config.deviceId ++ "'"⟩ := by
      rw [fault?, if_neg (by simp [unknown])]
    have failed : (Action.ofResult ((CrossCompiler.make registry config .operator).mapError
        .build) : Action World SessionError CrossCompiler).run before =
          (.error (.build (.unknownDevice config.deviceId)), before) := by
      rw [CrossCompiler.make_of_unknown found, Action.run_ofResult, Except.mapError]
    exact ends_of_fault fails (Action.run_bind_of_error failed _) (stopped_before rfl (by decide))
  · have known : registry.backends.any (fun backend => backend.deviceId = config.deviceId) =
        true := by
      rw [← Bool.not_eq_false, ← Session.find_eq_none_iff, found]
      exact Option.some_ne_none backend
    have passes : fault? registry module config before .device = none := by
      rw [fault?, if_pos known]
    have resolved : (Action.ofResult ((CrossCompiler.make registry config .operator).mapError
        .build) : Action World SessionError CrossCompiler).run before =
          (.ok (.ofConfig backend config .operator), before) := by
      rw [CrossCompiler.make_of_found found, Action.run_ofResult, Except.mapError]
    refine ends_of_pass passes ?_
    rw [Action.run_bind_of_ok resolved]
    exact ends_buildModule found

theorem passes_of_firstFault {stages : List ModuleStage}
    (none : firstFault? registry module config before stages = none) {stage : ModuleStage}
    (member : stage ∈ stages) : fault? registry module config before stage = Option.none :=
  Option.map_eq_none_iff.mp (List.findSome?_eq_none_iff.mp none stage member)

/-- The directory of a module that is created was not there before. -/
theorem vacant_workDirectory
    (passes : fault? registry module config before .directory = none) :
    before.files.Vacant (workDirectory before) := by
  rcases makes : before.files.makeTemporary "micrort-mod-" with unmade | ⟨path, files⟩
  · simp [fault?, makes, failure?] at passes
  · obtain ⟨rfl, -, -⟩ := FileTree.makeTemporary_ok (by decide) makes
    exact FileTree.vacant_of_makeTemporary (by decide) makes

end Creation

/-- Whatever the export step does, a module that was built is loaded from a directory of its
own. -/
theorem buildModule_ok {compiler : ExportCompiler} {module : SourceModule} {before after : World}
    {loaded : MicroModule}
    (done : (buildModule compiler loadObject module).run before = (.ok loaded, after)) :
    loaded.directory = some (Creation.workDirectory before) ∧
      loaded.artifact.path = Creation.library before ∧
      after.files.contains loaded.artifact.path = true ∧
      before.files.Vacant (Creation.workDirectory before) := by
  obtain ⟨directory, housed, makes, done⟩ := Action.run_bind_ok done
  have vacant := World.vacant_of_makeTemporary (by decide) makes
  obtain ⟨made, -⟩ := World.run_inWorkshop_ok makes
  obtain ⟨_, temporary, -⟩ := Workshop.makeTemporary_ok (Action.run_widen_ok made)
  obtain ⟨rfl, -, -⟩ := FileTree.makeTemporary_ok (by decide) temporary
  obtain ⟨_, exported, -, done⟩ := Action.run_bind_ok (Action.run_orTidy_ok done)
  obtain ⟨object, _, looked, done⟩ := Action.run_bind_ok done
  cases done
  obtain ⟨loads, rfl⟩ := Prod.mk.inj looked
  obtain ⟨contents, read, artifact_eq⟩ := loadObject_ok loads
  refine ⟨rfl, ?_, ?_, vacant⟩
  · exact congrArg ObjectArtifact.path artifact_eq
  · change exported.files.contains object.artifact.path = true
    rw [artifact_eq]
    exact FileTree.contains_of_read read

end MicroDevice
