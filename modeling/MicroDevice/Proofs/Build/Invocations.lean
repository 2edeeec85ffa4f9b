import Mathlib.Data.List.Forall2
import MicroDevice.Build.CrossCompiler
import MicroDevice.Proofs.Action.Moves
import MicroDevice.Simulation.Bench

/-! # Calls of a cross compiler

A cross compiler is called to build an object, or to build and describe it, over and over. What
comes of a call is told from the call alone and from what the backend does then
(`CrossCompiler.Serves`): the backend is asked once for each call that names one object and one
source, and what was asked before leaves no trace in its options. A path and the sequence of that
path alone are not told apart (`CrossCompiler.serves_runEach`).
-/

namespace MicroDevice

namespace PathArg

/-- The paths that an argument names. -/
def paths : PathArg → List Path
  | one path => [path]
  | many paths => paths

/-- An argument of one path is that path, alone or in a sequence. -/
theorem single_of_paths {argument : PathArg} {path : Path} (names : argument.paths = [path])
    (name : String) : argument.single name = .ok path := by
  cases argument with
  | one other =>
      cases names
      rfl
  | many paths =>
      cases names
      rfl

/-- An argument of any other number of paths is refused with their number. -/
theorem single_of_length {argument : PathArg} (several : argument.paths.length ≠ 1)
    (name : String) :
    argument.single name = .error (.argument (.notOneFile name argument.paths.length)) := by
  match argument with
  | one _ => exact absurd rfl several
  | many [] => rfl
  | many [_] => exact absurd rfl several
  | many (_ :: _ :: _) => rfl

/-- Arguments of the same paths are taken alike. -/
theorem single_of_same_paths {argument other : PathArg} (same : argument.paths = other.paths)
    (name : String) : argument.single name = other.single name := by
  by_cases alone : argument.paths.length = 1
  · obtain ⟨path, named⟩ := List.length_eq_one_iff.mp alone
    rw [single_of_paths named, single_of_paths (same ▸ named)]
  · rw [single_of_length alone, single_of_length (same ▸ alone), same]

end PathArg

/-- A call of a cross compiler: what it is asked for, and whether it is to describe the object. -/
structure Invocation where
  request : ExportRequest
  describes : Bool

namespace Invocation

/-- The job that a call comes to, if it names one object and one source. Its flags are those of
the call alone, and all other options are those of the configuration. -/
def job? (config : DeviceConfig) (libType : LibType) (invocation : Invocation) :
    Option CompileJob :=
  match invocation.request.object.paths, invocation.request.sources.paths with
  | [object], [source] => some {
      object, source, libType
      options := {
        toolchainPrefix := some config.toolchainPrefix
        layout := some config.memLayout
        wordSize := some config.wordSize
        thumbMode := config.thumbMode
        flags := invocation.request.flags.getD [] } }
  | _, _ => none

/-- Calls that name the same paths, alone or in sequences, and ask for the same otherwise. -/
structure Alike (first second : Invocation) : Prop where
  object : first.request.object.paths = second.request.object.paths
  sources : first.request.sources.paths = second.request.sources.paths
  flags : first.request.flags = second.request.flags
  describes : first.describes = second.describes

end Invocation

namespace CrossCompiler

/-- Make a call. -/
def invoke (compiler : CrossCompiler) (invocation : Invocation) :
    Action World BuildError (Option ObjectArtifact) :=
  if invocation.describes then some <$> compiler.compileArtifact invocation.request
  else (fun _ => none) <$> compiler.compile invocation.request

/-- What comes of a call. It is refused unless it names one object and one source, the object
first. Else the backend is asked for the job, its failures are passed on, and an object that is to
be described is looked at then. -/
inductive Serves (backend : DeviceBackend) (config : DeviceConfig) (libType : LibType)
    (invocation : Invocation) (before : Workshop) :
    Except BuildError (Option ObjectArtifact) → Workshop → Prop
  | refusesObject (several : invocation.request.object.paths.length ≠ 1) :
      Serves backend config libType invocation before
        (.error (.argument (.notOneFile "obj_path" invocation.request.object.paths.length))) before
  | refusesSource (named : invocation.request.object.paths.length = 1)
      (several : invocation.request.sources.paths.length ≠ 1) :
      Serves backend config libType invocation before
        (.error (.argument (.notOneFile "src_path" invocation.request.sources.paths.length)))
        before
  | fails {job : CompileJob} {error : BuildError} {after : Workshop}
      (asks : invocation.job? config libType = some job)
      (answers : (backend.compile job).run before = (.error error, after)) :
      Serves backend config libType invocation before (.error error) after
  | builds {job : CompileJob} {after : Workshop} (plain : invocation.describes = false)
      (asks : invocation.job? config libType = some job)
      (answers : (backend.compile job).run before = (.ok (), after)) :
      Serves backend config libType invocation before (.ok none) after
  | describes {job : CompileJob} {after : Workshop} {contents : Bytes}
      (describes : invocation.describes = true)
      (asks : invocation.job? config libType = some job)
      (answers : (backend.compile job).run before = (.ok (), after))
      (reads : after.files.read job.object = .ok contents) :
      Serves backend config libType invocation before
        (.ok (some ⟨job.object, contents.length, Sha256.digest contents⟩)) after
  | unreadable {job : CompileJob} {after : Workshop} {fault : IoFault}
      (describes : invocation.describes = true)
      (asks : invocation.job? config libType = some job)
      (answers : (backend.compile job).run before = (.ok (), after))
      (reads : after.files.read job.object = .error fault) :
      Serves backend config libType invocation before (.error (.io fault)) after

/-- What comes of calls one after another. -/
inductive ServesEach (backend : DeviceBackend) (config : DeviceConfig) (libType : LibType) :
    List Invocation → Workshop → List (Except BuildError (Option ObjectArtifact)) → Workshop → Prop
  | nil (before : Workshop) : ServesEach backend config libType [] before [] before
  | cons {invocation : Invocation} {later : List Invocation} {before middle after : Workshop}
      {outcome : Except BuildError (Option ObjectArtifact)}
      {outcomes : List (Except BuildError (Option ObjectArtifact))}
      (first : Serves backend config libType invocation before outcome middle)
      (rest : ServesEach backend config libType later middle outcomes after) :
      ServesEach backend config libType (invocation :: later) before (outcome :: outcomes) after

variable {backend : DeviceBackend} {config : DeviceConfig} {libType : LibType}

/-! ## One call -/

section Call

variable {compiler : CrossCompiler} {request : ExportRequest} {invocation other : Invocation}
  {object source : Path} {before : World}

/-- An invocation of one object and one source asks for the job of these, with the options of the
configuration and its own flags. -/
theorem job?_of_paths (config : DeviceConfig) (libType : LibType)
    (named : invocation.request.object.paths = [object])
    (sourced : invocation.request.sources.paths = [source]) :
    invocation.job? config libType = some ⟨object, source, libType,
      { CompileOptions.ofConfig config with flags := invocation.request.flags.getD [] }⟩ := by
  rw [Invocation.job?, named, sourced]
  rfl

/-- An invocation of another number of objects or sources asks for no job. -/
theorem job?_of_length (several : invocation.request.object.paths.length ≠ 1 ∨
      invocation.request.sources.paths.length ≠ 1) :
    invocation.job? config libType = none := by
  unfold Invocation.job?
  split
  · rename_i object source named sourced
    simp [named, sourced] at several
  · rfl

/-- Of a request that names no single object, the object is refused. -/
theorem run_compile_of_objects (several : request.object.paths.length ≠ 1) :
    (compiler.compile request).run before =
      (.error (.argument (.notOneFile "obj_path" request.object.paths.length)), before) := by
  rw [compile, PathArg.single_of_length several]
  rfl

/-- Several sources are refused before the backend is asked. -/
theorem run_compile_of_sources (named : request.object.paths = [object])
    (several : request.sources.paths.length ≠ 1) :
    (compiler.compile request).run before =
      (.error (.argument (.notOneFile "src_path" request.sources.paths.length)), before) := by
  rw [compile, PathArg.single_of_paths named, PathArg.single_of_length several]
  rfl

/-- The backend is asked with the options of the configuration and the flags of the request. -/
theorem compile_of_paths (named : request.object.paths = [object])
    (sourced : request.sources.paths = [source]) :
    (ofConfig backend config libType).compile request = backend.request ⟨object, source, libType,
      { CompileOptions.ofConfig config with flags := request.flags.getD [] }⟩ := by
  rw [compile, PathArg.single_of_paths named, PathArg.single_of_paths sourced]
  cases request.flags <;> rfl

/-- Asking a backend puts the job into the journal, and the rest is up to the backend. -/
theorem run_request (job : CompileJob) (before : World) :
    (backend.request job).run before =
      (((backend.compile job).run before.workshop).1,
        ⟨((backend.compile job).run before.workshop).2, before.network,
          before.journal ++ [.compiling backend.deviceId job]⟩) := rfl

theorem run_look {Answer : Type} (view : FileTree → Except IoFault Answer) (world : World) :
    (World.inWorkshop (Workshop.look view)).run world =
      ((view world.files).mapError .io, world) := rfl

/-- A call that names one object builds it, and looks at it then if it is to be described. -/
theorem run_invoke (named : invocation.request.object.paths = [object]) :
    (compiler.invoke invocation).run before =
      match (compiler.compile invocation.request).run before with
      | (.error error, after) => (.error error, after)
      | (.ok (), after) =>
          if invocation.describes then
            (((ObjectArtifact.ofFile after.files object).mapError .io).map some, after)
          else (.ok none, after) := by
  have alone : compiler.compile { invocation.request with object := .one object } =
      compiler.compile invocation.request := by
    rw [compile, compile, PathArg.single_of_paths named]
    rfl
  unfold invoke
  split
  · rw [compileArtifact, PathArg.single_of_paths named]
    change (compiler.compile { invocation.request with object := .one object } >>=
      (fun _ => World.inWorkshop <| Workshop.look fun files => ObjectArtifact.ofFile files object)
        >>= fun artifact => pure (some artifact)).run before = _
    rw [alone, Action.run_bind, Action.run_bind]
    rcases (compiler.compile invocation.request).run before with ⟨_ | _, after⟩
    · rfl
    · have looks := run_look (fun files => ObjectArtifact.ofFile files object) after
      dsimp only
      rw [looks]
      rcases ObjectArtifact.ofFile after.files object with _ | _ <;> rfl
  · change (compiler.compile invocation.request >>= fun _ => pure none).run before = _
    rw [Action.run_bind]
    rcases (compiler.compile invocation.request).run before with ⟨_ | _, after⟩ <;> rfl

/-- Several objects are refused before the backend is asked. -/
theorem run_invoke_of_objects (several : invocation.request.object.paths.length ≠ 1) :
    (compiler.invoke invocation).run before =
      (.error (.argument (.notOneFile "obj_path" invocation.request.object.paths.length)),
        before) := by
  unfold invoke
  split
  · rw [compileArtifact, PathArg.single_of_length several]
    rfl
  · change (compiler.compile invocation.request >>= fun _ => pure none).run before = _
    rw [Action.run_bind, run_compile_of_objects several]

/-- A call is served, and asks the backend for its job if it has one. -/
theorem serves_invoke (backend : DeviceBackend) (config : DeviceConfig) (libType : LibType)
    (invocation : Invocation) (before : World) :
    ∃ outcome after, ((ofConfig backend config libType).invoke invocation).run before =
        (outcome, ⟨after, before.network, before.journal ++
          (invocation.job? config libType).toList.map (.compiling backend.deviceId)⟩) ∧
      Serves backend config libType invocation before.workshop outcome after := by
  by_cases alone : invocation.request.object.paths.length = 1
  · obtain ⟨object, named⟩ := List.length_eq_one_iff.mp alone
    by_cases single : invocation.request.sources.paths.length = 1
    · obtain ⟨source, sourced⟩ := List.length_eq_one_iff.mp single
      have asks := job?_of_paths config libType named sourced
      rw [run_invoke named, compile_of_paths named sourced, run_request, asks]
      rcases answers : (backend.compile _).run before.workshop with ⟨error | _, after⟩
      · exact ⟨_, _, rfl, .fails asks answers⟩
      · dsimp only
        split
        · rename_i describes
          rcases reads : after.files.read object with fault | contents
          · refine ⟨.error (.io fault), after, ?_, .unreadable describes asks answers reads⟩
            simp [ObjectArtifact.ofFile, World.files, reads, Except.mapError, Except.map]
          · refine ⟨.ok (some _), after, ?_, .describes describes asks answers reads⟩
            simp [ObjectArtifact.ofFile, ObjectArtifact.ofBytes, World.files, reads,
              Except.mapError, Except.map]
        · rename_i plain
          exact ⟨_, _, rfl, .builds (Bool.not_eq_true _ ▸ plain) asks answers⟩
    · rw [run_invoke named, run_compile_of_sources named single, job?_of_length (.inr single),
        Option.toList_none, List.map_nil, List.append_nil]
      exact ⟨_, _, rfl, .refusesSource alone single⟩
  · rw [run_invoke_of_objects alone, job?_of_length (.inl alone), Option.toList_none, List.map_nil,
      List.append_nil]
    exact ⟨_, _, rfl, .refusesObject alone⟩

/-- Calls that are alike are the same for the compiler. -/
theorem invoke_of_alike (compiler : CrossCompiler) (alike : invocation.Alike other) :
    compiler.invoke invocation = compiler.invoke other := by
  obtain ⟨⟨object, sources, flags⟩, describes⟩ := invocation
  obtain ⟨⟨object', sources', flags'⟩, describes'⟩ := other
  obtain ⟨objects, sourced, rfl, rfl⟩ := alike
  have sameObject := PathArg.single_of_same_paths objects "obj_path"
  have sameSource := PathArg.single_of_same_paths sourced "src_path"
  simp only [invoke, compileArtifact, compile, sameObject, sameSource]

end Call

/-! ## Calls one after another -/

/-- Invocations are served one by one, each in the world that the earlier ones left. -/
theorem servesEach_runEach (backend : DeviceBackend) (config : DeviceConfig) (libType : LibType)
    (invocations : List Invocation) (before : World) :
    ∃ outcomes after,
      Action.runEach (invocations.map (ofConfig backend config libType).invoke) before =
        (outcomes, ⟨after, before.network, before.journal ++
          (invocations.filterMap (Invocation.job? config libType)).map
            (.compiling backend.deviceId)⟩) ∧
      ServesEach backend config libType invocations before.workshop outcomes after := by
  induction invocations generalizing before with
  | nil => exact ⟨[], before.workshop, by simp [Action.runEach], .nil _⟩
  | cons invocation later ih =>
      obtain ⟨outcome, middle, run, first⟩ :=
        serves_invoke backend config libType invocation before
      obtain ⟨outcomes, after, runs, rest⟩ := ih ⟨middle, before.network, before.journal ++
        (invocation.job? config libType).toList.map (.compiling backend.deviceId)⟩
      refine ⟨outcome :: outcomes, after, ?_, .cons first rest⟩
      rw [List.map_cons, Action.runEach_cons, run, runs]
      cases asks : invocation.job? config libType with
      | none => simp [List.filterMap_cons_none asks]
      | some job => simp [List.filterMap_cons_some asks]

/-- Invocations that are alike are the same calls. -/
theorem map_invoke_of_alike (compiler : CrossCompiler) {invocations others : List Invocation}
    (alike : List.Forall₂ Invocation.Alike invocations others) :
    invocations.map compiler.invoke = others.map compiler.invoke := by
  induction alike with
  | nil => rfl
  | cons first _ ih => rw [List.map_cons, List.map_cons, compiler.invoke_of_alike first, ih]

/-- Calls of a cross compiler one after another are each served. For those that name one object and
one source the backend is asked, in turn and for nothing else, with the options of the configuration
and the flags of the call alone. Calls that name the same paths, alone or in sequences of one, have
the same answers and leave the same behind. -/
theorem serves_runEach (backend : DeviceBackend) (config : DeviceConfig) (libType : LibType)
    (invocations : List Invocation) (before : World) :
    (∃ outcomes after,
      Action.runEach (invocations.map (ofConfig backend config libType).invoke) before =
        (outcomes, ⟨after, before.network, before.journal ++
          (invocations.filterMap (Invocation.job? config libType)).map
            (.compiling backend.deviceId)⟩) ∧
      ServesEach backend config libType invocations before.workshop outcomes after) ∧
    ∀ others, List.Forall₂ Invocation.Alike invocations others →
      Action.runEach (others.map (ofConfig backend config libType).invoke) before =
        Action.runEach (invocations.map (ofConfig backend config libType).invoke) before := by
  refine ⟨servesEach_runEach backend config libType invocations before, ?_⟩
  intro others alike
  rw [map_invoke_of_alike _ alike]

/-- An object is built from two paths, or from the sequences of these paths: it is described when
that is asked for, and the flags of one call are not those of the next. -/
theorem serves_sequences_of_one :
    let backend := Simulation.backend "bench" fun _ => .writes (some [0x7F, 0x45, 0x4C])
    let world : World := { Simulation.benchWorld with
      workshop := { Simulation.benchWorld.workshop with
        files := FileTree.fresh.put ["work".toList, "x.c".toList] (.file (Text.encode "int x;")) } }
    let calls (object sources : PathArg) : List Invocation :=
      [⟨⟨object, sources, some ["-O2"]⟩, true⟩, ⟨⟨object, sources, none⟩, false⟩]
    let invoke := (ofConfig backend Simulation.benchConfig .operator).invoke
    let job (flags : List String) : CompileJob :=
      ⟨⟨"x.obj"⟩, ⟨"x.c"⟩, .operator, ⟨some "", some Simulation.benchConfig.memLayout, some 64, false,
        flags⟩⟩
    ∃ last, last.journal = [.compiling "bench" (job ["-O2"]), .compiling "bench" (job [])] ∧
      Action.runEach ((calls (.one ⟨"x.obj"⟩) (.one ⟨"x.c"⟩)).map invoke) world =
        ([.ok (some ⟨⟨"x.obj"⟩, 3, Sha256.digest [0x7F, 0x45, 0x4C]⟩), .ok none], last) ∧
      Action.runEach ((calls (.many [⟨"x.obj"⟩]) (.many [⟨"x.c"⟩])).map invoke) world =
        ([.ok (some ⟨⟨"x.obj"⟩, 3, Sha256.digest [0x7F, 0x45, 0x4C]⟩), .ok none], last) := by
  intro backend world calls invoke job
  have alike : List.Forall₂ Invocation.Alike (calls (.one ⟨"x.obj"⟩) (.one ⟨"x.c"⟩))
      (calls (.many [⟨"x.obj"⟩]) (.many [⟨"x.c"⟩])) :=
    .cons ⟨rfl, rfl, rfl, rfl⟩ (.cons ⟨rfl, rfl, rfl, rfl⟩ .nil)
  have succeeds : (Action.runEach ((calls (.one ⟨"x.obj"⟩) (.one ⟨"x.c"⟩)).map invoke) world).1 =
      [.ok (some ⟨⟨"x.obj"⟩, 3, Sha256.digest [0x7F, 0x45, 0x4C]⟩), .ok none] := by
    decide +kernel
  obtain ⟨⟨outcomes, after, runs, -⟩, same⟩ := serves_runEach backend Simulation.benchConfig
    .operator (calls (.one ⟨"x.obj"⟩) (.one ⟨"x.c"⟩)) world
  have many := same _ alike
  rw [runs] at succeeds many
  dsimp only at succeeds
  rw [succeeds] at runs many
  exact ⟨_, rfl, runs, many⟩

end CrossCompiler

end MicroDevice
