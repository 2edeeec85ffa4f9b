import MicroDevice.Proofs.Session.Stages

/-! # Where a build of a session stops

A build goes through its stages up to the first that fails, and fails with the fault of that
stage (`Session.passes_build`). The backend and the opener are asked only once
everything before them has passed, and the directory of the session is gone after a failure.
-/

namespace MicroDevice

variable {Kind : Type}

/-- The runtime source is written under its own name. -/
theorem Sources.writeRuntime_ok {directory path : Path} {before after : Workshop}
    (done : (writeRuntime directory).run before = (.ok path, after)) :
    path = directory.join runtimeName := by
  obtain ⟨_, written, -, returns⟩ := Action.run_bind_ok done
  cases returns
  rfl

namespace Session

/-- What is asked of the backend and the opener when a stage is the first to fail. -/
def asked (config : DeviceConfig) (before : World) : BuildStage → List Event
  | .compilation | .artifact | .method | .serverAddr | .serverPort =>
      [.compiling config.deviceId (runtimeJob config before)]
  | .opening =>
      [.compiling config.deviceId (runtimeJob config before),
        .opening (runtimeParams config before) true false]
  | _ => []

variable {setup : SessionSetup Kind} {config : DeviceConfig} {before : World}
  {backend : DeviceBackend}

theorem journal_sourced (before : World) : (sourced before).journal = before.journal := by
  rw [sourced, World.journal_run_inWorkshop, housed, World.journal_run_inWorkshop]

theorem request_answer (backend : DeviceBackend) (job : CompileJob) (world : World) :
    ((backend.request job).run world).1 = ((backend.compile job).run world.workshop).1 := rfl

theorem journal_request (backend : DeviceBackend) (job : CompileJob) (world : World) :
    ((backend.request job).run world).2.journal =
      world.journal ++ [.compiling backend.deviceId job] := rfl

/-- Compiling the runtime asks for it once, after all that was asked before. -/
theorem journal_compiled (found : setup.registry.find? config.deviceId = some backend)
    (before : World) :
    (compiled backend config before).journal =
      before.journal ++ [.compiling config.deviceId (runtimeJob config before)] := by
  have known : backend.deviceId = config.deviceId := by simpa using List.find?_some found
  rw [compiled, journal_request, journal_sourced, known]

/-! ## Stages one after another -/

section Passes

variable (setup config before) {Error Answer Next : Type}

/-- An outcome goes through some stages: it is the error of the first of them that fails, worded
for a session, or an answer of which something holds. Either way something holds of the world
that is left. -/
structure Passes (wider : Error → SessionError) (stages : List BuildStage)
    (stopped : BuildStage → World → Prop) (done : Answer → World → Prop)
    (outcome : Except Error Answer × World) : Prop where
  ends : match firstFault? setup config before stages with
    | some (stage, refusal) =>
        ∃ error, outcome.1 = .error error ∧ refusal.error = wider error ∧ stopped stage outcome.2
    | none => ∃ answer, outcome.1 = .ok answer ∧ done answer outcome.2

variable {setup config before} {wider : Error → SessionError} {stages later : List BuildStage}
  {stopped : BuildStage → World → Prop} {done : Answer → World → Prop}

/-- Either all stages pass and there is an answer, or the first that fails tells the error. -/
theorem Passes.outcome_cases {outcome : Except Error Answer × World}
    (passes : Passes setup config before wider stages stopped done outcome) :
    (∃ answer left, outcome = (.ok answer, left) ∧
        firstFault? setup config before stages = none ∧ done answer left) ∨
      ∃ stage refusal error left, outcome = (.error error, left) ∧
        firstFault? setup config before stages = some (stage, refusal) ∧
          refusal.error = wider error ∧ stopped stage left := by
  have ends := passes.ends
  rcases first : firstFault? setup config before stages with _ | ⟨stage, refusal⟩ <;>
    rw [first] at ends
  · obtain ⟨answer, succeeded, isDone⟩ := ends
    exact .inl ⟨answer, outcome.2, Prod.ext succeeded rfl, rfl, isDone⟩
  · obtain ⟨error, failed, worded, isStopped⟩ := ends
    exact .inr ⟨stage, refusal, error, outcome.2, Prod.ext failed rfl, rfl, worded, isStopped⟩

/-- A composite action goes through the stages of its first part and then of its second. -/
theorem Passes.bind {action : Action World Error Answer} {world : World}
    (passes : Passes setup config before wider stages stopped done (action.run world))
    {next : Answer → Action World Error Next} {ended : Next → World → Prop}
    (follows : ∀ answer middle, done answer middle →
      Passes setup config before wider later stopped ended ((next answer).run middle)) :
    Passes setup config before wider (stages ++ later) stopped ended
      ((action >>= next).run world) := by
  constructor
  rw [firstFault_append]
  rcases passes.outcome_cases with
    ⟨answer, middle, ran, none, isDone⟩ | ⟨stage, refusal, error, middle, ran, first, isFault⟩
  · rw [Action.run_bind_of_ok ran, none, Option.none_or]
    exact (follows answer middle isDone).ends
  · rw [Action.run_bind_of_error ran, first, Option.some_or]
    exact ⟨error, rfl, isFault⟩

/-- An outcome goes through the same stages once its error is worded for a session. -/
theorem Passes.widen {action : Action World Error Answer} {world : World}
    (passes : Passes setup config before wider stages stopped done (action.run world)) :
    Passes setup config before id stages stopped done ((action.widen wider).run world) := by
  constructor
  rcases passes.outcome_cases with
    ⟨answer, left, ran, none, isDone⟩ | ⟨stage, refusal, error, left, ran, first, isFault⟩
  · rw [Action.run_widen, ran, none]
    exact ⟨answer, rfl, isDone⟩
  · rw [Action.run_widen, ran, first]
    exact ⟨wider error, rfl, isFault⟩

/-- What follows a stage needs none of its own. -/
theorem passes_pure {answer : Answer} {world : World} (isDone : done answer world) :
    Passes setup config before wider [] stopped done
      ((pure answer : Action World Error Answer).run world) :=
  ⟨⟨answer, rfl, isDone⟩⟩

/-- A failure is put in order, and an answer is left as it is. -/
theorem Passes.orTidy {action : Action World Error Answer} {world : World}
    (passes : Passes setup config before wider stages stopped done (action.run world))
    {tidy : World → World} {tidied : BuildStage → World → Prop}
    (tidies : ∀ stage ∈ stages, ∀ left, stopped stage left → tidied stage (tidy left)) :
    Passes setup config before wider stages tidied done ((action.orTidy tidy).run world) := by
  constructor
  rcases passes.outcome_cases with ⟨answer, left, ran, none, isDone⟩ |
    ⟨stage, refusal, error, left, ran, first, worded, isStopped⟩
  · rw [Action.run_orTidy_of_ok ran, none]
    exact ⟨answer, rfl, isDone⟩
  · rw [Action.run_orTidy_of_error ran, first]
    have member := (fault_of_firstFault first).1
    exact ⟨error, rfl, worded, tidies stage member left isStopped⟩

/-- A check goes through the stages that it agrees with, and changes nothing. -/
theorem Agrees.passes_ofResult {holds : Answer → Prop} {result : Except SessionError Answer}
    (agrees : Agrees setup config before stages holds result) {world : World}
    (stops : ∀ stage ∈ stages, stopped stage world) :
    Passes setup config before id stages stopped
      (fun answer later => holds answer ∧ later = world)
      ((Action.ofResult result : Action World SessionError Answer).run world) := by
  constructor
  rcases first : firstFault? setup config before stages with _ | ⟨stage, refusal⟩
  · obtain ⟨answer, succeeded, isHeld⟩ := agrees.passes first
    exact ⟨answer, succeeded, isHeld, rfl⟩
  · have member := (fault_of_firstFault first).1
    exact ⟨refusal.error, agrees.fails first, rfl, stops stage member⟩

/-- An action whose failures are the faults of a stage goes through that stage. -/
theorem passes_stage {stage : BuildStage} {outcome : Except Error Answer × World}
    {text : Error → String}
    (fault : fault? setup config before stage =
      (failure? outcome.1).map fun error => ⟨wider error, text error⟩)
    (stops : ∀ error, outcome.1 = .error error → stopped stage outcome.2)
    (answers : ∀ answer, outcome.1 = .ok answer → done answer outcome.2) :
    Passes setup config before wider [stage] stopped done outcome := by
  obtain ⟨error | answer, left⟩ := outcome
  · have fails : fault? setup config before stage = some ⟨wider error, text error⟩ := fault
    constructor
    rw [firstFault_of_fault fails]
    exact ⟨error, rfl, rfl, stops error rfl⟩
  · have passes : fault? setup config before stage = none := fault
    constructor
    rw [firstFault_of_pass passes]
    exact ⟨answer, rfl, answers answer rfl⟩

end Passes

/-! ## The stages in the directory of a session -/

/-- What holds of the world when a stage is the first to fail and the directory of the session
is still there. -/
def Untidy (config : DeviceConfig) (before : World) (stage : BuildStage) (left : World) : Prop :=
  left.journal = before.journal ++ asked config before stage

/-- Writing the runtime source goes through the stage of the source. -/
theorem passes_source :
    Passes setup config before .build [.source] (Untidy config before)
      (fun path later => path = (runtimeJob config before).source ∧ later = sourced before)
      ((World.inWorkshop (Sources.writeRuntime (workDirectory before))).run (housed before)) := by
  have fault : fault? setup config before .source =
      (failure? ((World.inWorkshop (Sources.writeRuntime (workDirectory before))).run
        (housed before)).1).map fun error => ⟨.build error, error.message⟩ := by
    simp only [fault?, World.run_inWorkshop]
  have left : ((World.inWorkshop (Sources.writeRuntime (workDirectory before))).run
      (housed before)).2 = sourced before := by
    rw [sourced]
  have journal := journal_sourced before
  have writes (path : Path) (after : World)
      (done : (World.inWorkshop (Sources.writeRuntime (workDirectory before))).run
        (housed before) = (.ok path, after)) :=
    Sources.writeRuntime_ok (World.run_inWorkshop_ok done).1
  -- what the source of the runtime is does not matter from here on
  generalize (World.inWorkshop (Sources.writeRuntime (workDirectory before))).run
    (housed before) = outcome at fault left writes ⊢
  apply passes_stage fault
  · intro error _
    rw [Untidy, left, journal]
    exact (List.append_nil _).symm
  · intro path written
    exact ⟨writes path outcome.2 (Prod.ext written rfl), left⟩

/-- Asking the backend goes through the stage of the compilation. -/
theorem passes_compilation (found : setup.registry.find? config.deviceId = some backend) :
    Passes setup config before .build [.compilation] (Untidy config before)
      (fun _ later => later = compiled backend config before)
      ((backend.request (runtimeJob config before)).run (sourced before)) := by
  have fault : fault? setup config before .compilation =
      (failure? ((backend.request (runtimeJob config before)).run (sourced before)).1).map
        fun error => ⟨.build error, error.message⟩ := by
    simp only [fault?, found, Option.bind_some, request_answer]
  have left : ((backend.request (runtimeJob config before)).run (sourced before)).2 =
      compiled backend config before := by
    rw [compiled]
  have journal := journal_compiled found before
  apply passes_stage fault
  · intro error _
    rw [Untidy, left, journal]
    rfl
  · intro _ _
    exact left

/-- Describing the object goes through the stage of the artifact. -/
theorem passes_artifact (found : setup.registry.find? config.deviceId = some backend) :
    Passes setup config before .build [.artifact] (Untidy config before)
      (fun runtime later => runtime.path = (runtimeJob config before).object ∧
        later = compiled backend config before ∧ later.files.contains runtime.path = true)
      ((World.inWorkshop (Workshop.look fun files =>
        ObjectArtifact.ofFile files (runtimeJob config before).object)).run
          (compiled backend config before)) := by
  have journal := journal_compiled found before
  have fault : fault? setup config before .artifact =
      (failure? ((compiled backend config before).files.read (runtimeJob config before).object)).map
        fun fault => ⟨.build (.io fault), "I/O error: " ++ fault.message⟩ := by
    simp only [fault?, found, Option.bind_some]
  generalize compiled backend config before = world at journal fault ⊢
  generalize object_eq : (runtimeJob config before).object = object at fault ⊢
  have looked : (World.inWorkshop (Workshop.look fun files =>
      ObjectArtifact.ofFile files object)).run world =
        ((ObjectArtifact.ofFile world.files object).mapError .io, world) := rfl
  have worded : fault? setup config before .artifact =
      (failure? ((ObjectArtifact.ofFile world.files object).mapError BuildError.io)).map
        fun error => ⟨.build error, error.message⟩ := by
    rw [fault, ObjectArtifact.ofFile]
    cases world.files.read object <;> rfl
  rw [looked]
  apply passes_stage worded
  · intro _ _
    rw [Untidy, journal]
    rfl
  · intro runtime succeeded
    obtain ⟨contents, read, rfl⟩ :=
      ObjectArtifact.ofFile_ok (Action.mapError_eq_ok.mp succeeded)
    exact ⟨rfl, rfl, FileTree.contains_of_read read⟩

/-- Compiling the runtime goes through its three stages. -/
theorem passes_compileRuntime (found : setup.registry.find? config.deviceId = some backend) :
    Passes setup config before .build [.source, .compilation, .artifact] (Untidy config before)
      (fun runtime later => runtime.path = (runtimeJob config before).object ∧
        later = compiled backend config before ∧ later.files.contains runtime.path = true)
      ((compileRuntime backend config (workDirectory before)).run (housed before)) := by
  apply passes_source.bind
  intro source written isWritten
  rw [isWritten.1, isWritten.2]
  apply (passes_compilation found).bind
  intro _ world isCompiled
  rw [isCompiled]
  exact passes_artifact found

/-- The opener is asked with the runtime in place. -/
theorem passes_opening (found : setup.registry.find? config.deviceId = some backend)
    {world : World} (isCompiled : world = compiled backend config before)
    (present : world.files.contains (runtimeParams config before).runtime = true) :
    Passes setup config before id [.opening] (Untidy config before)
      (fun _ later => later.journal = before.journal ++
        [.compiling config.deviceId (runtimeJob config before),
          .opening (runtimeParams config before) true true])
      ((openChannel setup.opener (runtimeParams config before)).run world) := by
  have journal := journal_compiled found before
  have fault : fault? setup config before .opening =
      (failure? ((setup.opener (runtimeParams config before)
        (compiled backend config before).files).run
          (compiled backend config before).network).1).map fun error =>
            ⟨error, error.message⟩ := by
    simp only [fault?, found, Option.bind_some]
  rw [← isCompiled] at journal fault
  have opened : (openChannel setup.opener (runtimeParams config before)).run world =
      (((setup.opener (runtimeParams config before) world.files).run world.network).1,
        { world with network :=
          ((setup.opener (runtimeParams config before) world.files).run world.network).2 }.note
            (.opening (runtimeParams config before) true
              ((setup.opener (runtimeParams config before) world.files).run
                world.network).1.isOk)) := by
    rw [← present]
    rfl
  rw [opened]
  generalize (setup.opener (runtimeParams config before) world.files).run world.network =
    outcome at fault ⊢
  obtain ⟨result, network⟩ := outcome
  apply passes_stage fault
  · rintro error rfl
    rw [Untidy, World.journal_note, journal, List.append_assoc]
    rfl
  · rintro channel rfl
    rw [World.journal_note, journal, List.append_assoc]
    rfl

/-- Building in the directory of a session goes through the late stages. -/
theorem passes_buildIn (found : setup.registry.find? config.deviceId = some backend) :
    Passes setup config before id BuildStage.late (Untidy config before)
      (fun session later => session.phase = .channelOpen ∧
        later.journal = before.journal ++
          [.compiling config.deviceId (runtimeJob config before),
            .opening (runtimeParams config before) true true])
      ((buildIn setup backend config config.memLayout.regions (workDirectory before)).run
        (housed before)) := by
  apply (passes_compileRuntime found).widen.bind
  rintro runtime world ⟨path, isCompiled, present⟩
  have journal := journal_compiled found before
  rw [← isCompiled] at journal
  have stops : ∀ stage ∈ [BuildStage.method, .serverAddr, .serverPort],
      Untidy config before stage world := by
    intro stage member
    rw [Untidy, journal]
    simp only [List.mem_cons, List.not_mem_nil, or_false] at member
    rcases member with rfl | rfl | rfl <;> rfl
  apply ((agrees_transport setup config before).passes_ofResult stops).bind
  rintro transport _ ⟨params, rfl⟩
  rw [params runtime path]
  rw [path] at present
  apply (passes_opening found isCompiled present).bind
  intro channel opened isOpened
  exact passes_pure ⟨rfl, isOpened⟩

/-! ## All stages -/

/-- What holds of the world when a stage is the first to fail: it is as before as long as no
directory was made, and after that the directory is gone. -/
def Stopped (config : DeviceConfig) (before : World) (stage : BuildStage) (left : World) : Prop :=
  Untidy config before stage left ∧
    if stage ∈ BuildStage.early then left = before
    else left.files.contains (workDirectory before) = false

/-- An early stage stops with the world as it was. -/
theorem stopped_early {stage : BuildStage} (isEarly : stage ∈ BuildStage.early) :
    Stopped config before stage before := by
  refine ⟨?_, ?_⟩
  · simp only [BuildStage.early, List.mem_cons, List.not_mem_nil, or_false] at isEarly
    rw [Untidy]
    rcases isEarly with rfl | rfl | rfl | rfl | rfl | rfl <;> exact (List.append_nil _).symm
  · rw [if_pos isEarly]

/-- Once its directory is removed, a build that failed in there is stopped. -/
theorem Untidy.stopped {stage : BuildStage} {left : World}
    (untidy : Untidy config before stage left) (isLate : stage ∈ BuildStage.late) :
    Stopped config before stage (left.removeAll (workDirectory before)) := by
  have notEarly : stage ∉ BuildStage.early := by
    simp only [BuildStage.late, List.mem_cons, List.not_mem_nil, or_false] at isLate
    rcases isLate with rfl | rfl | rfl | rfl | rfl | rfl | rfl <;> decide
  refine ⟨untidy, ?_⟩
  rw [if_neg notEarly, World.files_removeAll]
  exact left.files.contains_removeAll (FileTree.spells_temporary (by decide) _)
    (FileTree.temporaryLocation_ne _ _)

/-- Making the directory of the session goes through its stage. -/
theorem passes_directory :
    Passes setup config before id [.directory] (Stopped config before)
      (fun directory later => directory = workDirectory before ∧ later = housed before)
      ((World.inWorkshop ((Workshop.makeTemporary "micrort-session-").widen .io)).run before) := by
  have fault : fault? setup config before .directory =
      (failure? (before.files.makeTemporary "micrort-session-")).map fun fault =>
        ⟨.io fault, "I/O error: " ++ fault.message⟩ := by
    simp only [fault?]
  rcases makes : before.files.makeTemporary "micrort-session-" with unmade | ⟨path, files⟩
  · have ran := Workshop.run_makeTemporary_of_error before.workshop makes
    have fails : fault? setup config before .directory =
        (failure? (Except.error (SessionError.io unmade) : Except SessionError Path)).map
          fun error => ⟨error, error.message⟩ := by
      rw [fault, makes]
      rfl
    rw [World.run_inWorkshop, Action.run_widen, ran]
    apply passes_stage fails
    · intro _ _
      exact stopped_early (by decide)
    · rintro _ ⟨⟩
  · have ran := Workshop.run_makeTemporary_of_ok before.workshop makes
    have isHoused : housed before = { before with workshop := { before.workshop with files } } := by
      rw [housed, World.run_inWorkshop, ran]
    have passes : fault? setup config before .directory =
        (failure? (Except.ok path : Except SessionError Path)).map
          fun error => ⟨error, error.message⟩ := by
      rw [fault, makes]
      rfl
    rw [World.run_inWorkshop, Action.run_widen, ran]
    apply passes_stage passes
    · rintro _ ⟨⟩
    · rintro _ ⟨⟩
      exact ⟨(FileTree.makeTemporary_ok (by decide) makes).1, isHoused.symm⟩

/-- Building a session goes through all stages. -/
theorem passes_build (setup : SessionSetup Kind) (config : DeviceConfig) (before : World) :
    Passes setup config before id BuildStage.all (Stopped config before)
      (fun session later => session.phase = .channelOpen ∧
        later.journal = before.journal ++
          [.compiling config.deviceId (runtimeJob config before),
            .opening (runtimeParams config before) true true])
      ((build setup config).run before) := by
  -- each check either stops the build, in the world it began with, or is done with
  have early (stages : List BuildStage) (within : stages ⊆ BuildStage.early) :
      ∀ stage ∈ stages, Stopped config before stage before :=
    fun stage member => stopped_early (within member)
  apply ((agrees_check setup config before).passes_ofResult (early _ (by decide))).bind
  rintro _ _ ⟨-, rfl⟩
  apply ((agrees_get setup config _).passes_ofResult (early _ (by decide))).bind
  rintro backend _ ⟨found, rfl⟩
  apply ((agrees_requireAll setup config _).passes_ofResult (early _ (by decide))).bind
  rintro _ _ ⟨rfl, rfl⟩
  apply ((agrees_wordSizeBytes setup config _).passes_ofResult (early _ (by decide))).bind
  rintro _ _ ⟨-, rfl⟩
  apply passes_directory.bind
  intro directory later isHoused
  rw [isHoused.1, isHoused.2]
  apply (passes_buildIn found).orTidy
  intro stage isLate left untidy
  exact untidy.stopped isLate

/-- The builder fails with the error of the first stage that fails. -/
theorem build_fails {stage : BuildStage} {refusal : Refusal}
    (first : firstFault? setup config before BuildStage.all = some (stage, refusal)) :
    ((build setup config).run before).1 = .error refusal.error := by
  have ends := (passes_build setup config before).ends
  rw [first] at ends
  obtain ⟨error, failed, worded, -⟩ := ends
  rw [failed, worded]
  rfl

/-- A build that stops at a stage has called no channel. -/
theorem call_of_asked {stage : BuildStage} {event : Event}
    (member : event ∈ asked config before stage) : event.call? = none := by
  cases stage <;> simp only [asked, List.mem_cons, List.not_mem_nil, or_false] at member
  case opening => rcases member with rfl | rfl <;> rfl
  all_goals
    rw [member]
    rfl

/-- The builder fails with the error of the first stage that fails, worded as the stage words it.
Up to there the backend was asked once if its stage was reached, and the opener once, with the
runtime in place, if only its own stage fails; no channel was asked for anything. No directory
was made, or it is gone. If no stage fails there is a session with an open channel. -/
theorem build_stops_at_first_fault (setup : SessionSetup Kind) (config : DeviceConfig)
    (before : World) :
    match (build setup config).run before, firstFault? setup config before BuildStage.all with
    | (result, after), some (stage, refusal) =>
        result = .error refusal.error ∧ refusal.error.message = refusal.text ∧
          after.journal = before.journal ++ asked config before stage ∧
          after.calls = before.calls ∧
          if stage ∈ BuildStage.early then after = before
          else after.files.contains (workDirectory before) = false
    | (result, after), none =>
        ∃ session, result = .ok session ∧ session.phase = .channelOpen ∧
          after.journal = before.journal ++
            [.compiling config.deviceId (runtimeJob config before),
              .opening (runtimeParams config before) true true] := by
  have ends := (passes_build setup config before).ends
  generalize (build setup config).run before = built at ends ⊢
  obtain ⟨result, after⟩ := built
  rcases first : firstFault? setup config before BuildStage.all with _ | ⟨stage, refusal⟩
  · rw [first] at ends
    exact ends
  · rw [first] at ends
    obtain ⟨error, failed, worded, journal, left⟩ := ends
    have fails := (fault_of_firstFault first).2
    refine ⟨worded ▸ failed, message_of_fault fails, journal, ?_, left⟩
    have noCall : (asked config before stage).filterMap Event.call? = [] :=
      List.filterMap_eq_nil_iff.mpr fun event => call_of_asked
    rw [World.calls, journal, List.filterMap_append, noCall, List.append_nil]
    rfl

end Session

end MicroDevice
