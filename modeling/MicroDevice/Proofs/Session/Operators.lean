import MicroDevice.Proofs.Build.Registry
import MicroDevice.Proofs.Session.Ending
import MicroDevice.Proofs.Session.OnHost
import MicroDevice.Proofs.Session.Stopping

/-! # Operators for the runtime of a session

Operators run on top of the runtime, so they have to be compiled for the same memory map, and the
channel has to be opened for it too. All three get it from the configuration, each in a way of its
own. What is asked for in the life of a session is told by the journal (`World.Extends`): one
runtime, one channel, and from then on operators alone (`Event.Follows`).
-/

namespace MicroDevice

variable {Kind : Type}

/-- What may be asked for once a session is built: operators with given options, and operations
of its channel. -/
def Event.Follows (deviceId : String) (options : CompileOptions) : Event → Prop
  | .compiling asked job => asked = deviceId ∧ job.libType = .operator ∧ job.options = options
  | .exporting _ => True
  | .opening _ _ _ => False
  | .hook _ _ _ => True

/-- The journal grew by events that are allowed. -/
def World.Extends (allowed : Event → Prop) (before after : World) : Prop :=
  ∃ events, after.journal = before.journal ++ events ∧ ∀ event ∈ events, allowed event

namespace World.Extends

variable {allowed : Event → Prop}

theorem of_journal_eq {before after : World} (same : after.journal = before.journal) :
    before.Extends allowed after :=
  ⟨[], same.trans (List.append_nil _).symm, List.forall_mem_nil _⟩

theorem trans {first second third : World} (before : first.Extends allowed second)
    (after : second.Extends allowed third) : first.Extends allowed third := by
  obtain ⟨earlier, journal, may⟩ := before
  obtain ⟨later, extended, alsoMay⟩ := after
  refine ⟨earlier ++ later, ?_, List.forall_mem_append.mpr ⟨may, alsoMay⟩⟩
  rw [extended, journal, List.append_assoc]

instance : IsPreorder World (World.Extends allowed) where
  refl _ := of_journal_eq rfl
  trans _ _ _ := trans

theorem note {event : Event} (may : allowed event) (world : World) :
    world.Extends allowed (world.note event) :=
  ⟨[event], rfl, List.forall_mem_singleton.mpr may⟩

end World.Extends

namespace World

variable {allowed : Event → Prop}

theorem extends_inWorkshop {Error Answer : Type} (action : Action Workshop Error Answer) :
    (inWorkshop action).Moves (Extends allowed) :=
  fun _ => .of_journal_eq rfl

theorem extends_look {Error Answer : Type} (view : FileTree → Except Error Answer) :
    (look view).Moves (Extends allowed) :=
  fun _ => .of_journal_eq rfl

end World

/-! ## Compiling operators -/

namespace CrossCompiler

variable {compiler : CrossCompiler} {request : ExportRequest}

/-- A request without flags is compiled with the options of the configuration. -/
theorem requestOptions_of_plain (compiler : CrossCompiler) {flags : Option (List String)}
    (plain : flags.getD [] = []) : compiler.requestOptions flags = compiler.options := by
  cases flags with
  | none => rfl
  | some flags =>
      have none : flags = [] := plain
      rw [requestOptions, none, CompileOptions.withFlags, List.append_nil]

/-- A compilation of an operator without flags of its own asks for an operator with the options of
the compiler. -/
theorem extends_compile (operator : compiler.libType = .operator)
    (plain : request.flags.getD [] = []) :
    (compiler.compile request).Moves
      (World.Extends (Event.Follows compiler.backend.deviceId compiler.options)) := by
  refine (Action.moves_ofResult _).bind fun object => ?_
  refine (Action.moves_ofResult _).bind fun source => ?_
  have may : Event.Follows compiler.backend.deviceId compiler.options
      (.compiling compiler.backend.deviceId
        ⟨object, source, compiler.libType, compiler.requestOptions request.flags⟩) :=
    ⟨rfl, operator, compiler.requestOptions_of_plain plain⟩
  exact (Action.moves_change fun world => .note may world).bind fun _ =>
    World.extends_inWorkshop _

theorem extends_compileArtifact (operator : compiler.libType = .operator)
    (plain : request.flags.getD [] = []) :
    (compiler.compileArtifact request).Moves
      (World.Extends (Event.Follows compiler.backend.deviceId compiler.options)) := by
  refine (Action.moves_ofResult _).bind fun object => ?_
  have compiles : (compiler.compile { request with object := .one object }).Moves
      (World.Extends (Event.Follows compiler.backend.deviceId compiler.options)) :=
    extends_compile operator plain
  exact compiles.bind fun _ => World.extends_inWorkshop _

end CrossCompiler

/-- Exporting the library of a module asks for operators with the options of the compiler. -/
theorem SourceModule.extends_exportLibrary {compiler : CrossCompiler}
    (operator : compiler.libType = .operator) (module : SourceModule) (library : Path) :
    (module.exportLibrary library compiler.exportCompiler).Moves
      (World.Extends (Event.Follows compiler.backend.deviceId compiler.options)) := by
  unfold exportLibrary
  split
  · refine (World.extends_inWorkshop _).bind fun _ => Action.Moves.widen ?_ SessionError.build
    refine (Action.moves_change fun world => .note trivial world).bind fun _ => ?_
    exact CrossCompiler.extends_compile operator rfl
  · exact Action.moves_ofResult _

theorem extends_buildModule {compiler : CrossCompiler} (operator : compiler.libType = .operator)
    (loader : ModuleLoader) (module : SourceModule) :
    (buildModule compiler.exportCompiler loader module).Moves
      (World.Extends (Event.Follows compiler.backend.deviceId compiler.options)) := by
  refine (World.extends_inWorkshop _).bind fun directory world => ?_
  have within : (buildModuleIn compiler.exportCompiler loader module directory).Moves
      (World.Extends (Event.Follows compiler.backend.deviceId compiler.options)) := by
    refine (module.extends_exportLibrary operator _).bind fun _ => ?_
    exact (World.extends_look _).bind fun _ => Action.moves_pure _
  have works := within world
  rw [Action.run_orTidy]
  rcases ran : (buildModuleIn compiler.exportCompiler loader module directory).run world with
    ⟨error | loaded, later⟩ <;> rw [ran] at works
  · exact works.trans (.of_journal_eq (World.journal_removeAll _ _))
  · exact works

theorem MicroModule.journal_release (module : MicroModule) (world : World) :
    (module.release world).journal = world.journal := by
  unfold release
  split <;> rfl

/-! ## Sessions with a runtime -/

/-- A session goes on as it was opened: with its configuration and its backend, which since then
was asked for operators alone. -/
structure Live.GoesOn (session : Session Kind) (opened : World) (live : Live Kind) : Prop where
  config_eq : live.session.config = session.config
  backend_eq : live.session.backend = session.backend
  asks : opened.Extends (Event.Follows session.backend.deviceId (.ofConfig session.config))
    live.world

namespace Live.GoesOn

variable {session : Session Kind} {opened : World} {live : Live Kind}

theorem begin (session : Session Kind) (opened : World) :
    Live.GoesOn session opened ⟨session, opened⟩ :=
  ⟨rfl, rfl, .of_journal_eq rfl⟩

/-- A session goes on while it asks for operators with its own options. -/
theorem extend (goesOn : live.GoesOn session opened) {world : World}
    (asks : live.world.Extends (Event.Follows live.session.backend.deviceId
      (.ofConfig live.session.config)) world) :
    Live.GoesOn session opened { live with world } := by
  rw [goesOn.config_eq, goesOn.backend_eq] at asks
  exact ⟨goesOn.config_eq, goesOn.backend_eq, goesOn.asks.trans asks⟩

variable [Channel Kind]

/-- Asking the channel lets a session go on. -/
theorem ask (goesOn : live.GoesOn session opened) {hook : Hook}
    {result : Except SessionError Unit} {after : Live Kind}
    (asked : Asked hook live result after) : after.GoesOn session opened := by
  refine ⟨?_, ?_, goesOn.asks.trans ?_⟩
  · rw [asked.session_eq]
    exact goesOn.config_eq
  · rw [asked.session_eq]
    exact goesOn.backend_eq
  · rw [asked.world_eq]
    exact ⟨_, rfl, List.forall_mem_singleton.mpr trivial⟩

theorem keptByCalls : KeptByCalls (Live.GoesOn session opened) where
  ask _ _ _ _ _ goesOn asked := goesOn.ask asked
  setPhase _ _ goesOn := ⟨goesOn.config_eq, goesOn.backend_eq, goesOn.asks⟩

/-- Dropping a session that went on asks for nothing but operators and operations of the channel. -/
theorem drop (goesOn : live.GoesOn session opened) (notClosed : live.session.isClosed = false) :
    opened.Extends (Event.Follows session.backend.deviceId (.ofConfig session.config))
      live.drop := by
  have shutting : Live.GoesOn session opened
      { live with session := { live.session with isClosed := true } } :=
    ⟨goesOn.config_eq, goesOn.backend_eq, goesOn.asks⟩
  obtain ⟨result, shut, asked, left⟩ := Live.dropping notClosed
  rw [left]
  exact (shutting.ask asked).asks.trans (.of_journal_eq (World.journal_removeAll _ _))

end Live.GoesOn

/-! ## Runs that build operators -/

mutual

/-- Whether a step, and those in its body, build nothing but operators, with no flags of their
own. -/
def Step.buildsOperators : Step → Bool
  | .cross libType request => libType = .operator && request.flags.getD [] = []
  | .within body _ => Step.allBuildOperators body
  | _ => true

/-- Whether steps build nothing but operators. -/
def Step.allBuildOperators : List Step → Bool
  | [] => true
  | step :: later => step.buildsOperators && Step.allBuildOperators later

end

namespace Stage

variable {session : Session Kind} {opened : World}

/-- Creating a module lets a session go on. -/
theorem goesOn_createModule {stage : Stage Kind} (goesOn : stage.live.GoesOn session opened)
    (module : SourceModule) : (stage.createModule module).2.live.GoesOn session opened := by
  have operator : (stage.live.session.crossCompiler .operator).libType = .operator := rfl
  have asks := extends_buildModule operator loadObject module stage.live.world
  unfold createModule actInWorld Session.createModule
  rcases ran : (buildModule (stage.live.session.crossCompiler .operator).exportCompiler
    loadObject module).run stage.live.world with ⟨error | loaded, later⟩ <;> rw [ran] at asks
  · exact goesOn.extend asks
  · exact goesOn.extend (asks.trans (.of_journal_eq (loaded.journal_release later)))

variable [Channel Kind]

/-- What a session does other than building keeps it going on as it was opened. -/
theorem invariant_goesOn (session : Session Kind) (opened : World) :
    Invariant False fun stage : Stage Kind => stage.live.GoesOn session opened :=
  invariant_of_calls Live.GoesOn.keptByCalls fun impossible => impossible.elim

mutual

/-- A step keeps a session going on, and so does a run. The two go by one induction, since the body
of a scope is a run of its own. -/
theorem goesOn_play (stage : Stage Kind) (step : Step) (operators : step.buildsOperators = true)
    (goesOn : stage.live.GoesOn session opened) :
    (stage.play step).2.live.GoesOn session opened := by
  cases step with
  | cross libType request =>
      rw [Step.buildsOperators, Bool.and_eq_true, decide_eq_true_eq, decide_eq_true_eq] at operators
      obtain ⟨rfl, plain⟩ := operators
      rw [play]
      exact goesOn.extend (CrossCompiler.extends_compileArtifact rfl plain _)
  | createModule module =>
      have built := goesOn_createModule goesOn module
      rw [play]
      rcases ran : stage.createModule module with ⟨result, later⟩
      rw [ran] at built
      exact built
  | within body ending =>
      rw [Step.buildsOperators] at operators
      exact (invariant_goesOn session opened).within goesOn body ending fun begun =>
        goesOn_playAll begun body operators
  | enter | visit | exit | phase | inspect =>
      exact (invariant_goesOn session opened).play stage _ Bool.noConfusion goesOn
  | dropGuard index | exitGuard index | forgetGuard index =>
      exact (invariant_goesOn session opened).play stage _ Bool.noConfusion goesOn

/-- Steps that build operators only let a session go on. -/
theorem goesOn_playAll (stage : Stage Kind) (steps : List Step)
    (operators : Step.allBuildOperators steps = true)
    (goesOn : stage.live.GoesOn session opened) :
    (stage.playAll steps).2.live.GoesOn session opened := by
  cases steps with
  | nil =>
      rw [playAll]
      exact goesOn
  | cons step later =>
      rw [Step.allBuildOperators, Bool.and_eq_true] at operators
      rw [playAll]
      exact goesOn_playAll _ later operators.2 (goesOn_play stage step operators.1 goesOn)

end

/-- At each moment of a run that builds operators the session goes on as it was opened. -/
theorem goesOn_passes {stage passed : Stage Kind} {steps : List Step}
    (passes : stage.Passes steps passed) (operators : Step.allBuildOperators steps = true)
    (goesOn : stage.live.GoesOn session opened) : passed.live.GoesOn session opened := by
  induction passes with
  | here stage steps => exact goesOn
  | later passes ih =>
      rw [Step.allBuildOperators, Bool.and_eq_true] at operators
      exact ih operators.2 (goesOn_play _ _ operators.1 goesOn)
  | inside entered passes ih =>
      rw [Step.allBuildOperators, Bool.and_eq_true, Step.buildsOperators] at operators
      refine ih operators.1 ?_
      exact Live.GoesOn.keptByCalls.enter goesOn (Live.entering_of_run entered)

end Stage

/-! ## Builds beside a channel -/

namespace Stage

/-- What a build leaves as it is: the session with its channel, the guards, and the network. It
asks for builds alone. -/
structure BuildsBeside (before after : Stage Kind) : Prop where
  session_eq : after.live.session = before.live.session
  guards_eq : after.guards = before.guards
  network_eq : after.live.world.network = before.live.world.network
  asks : before.live.world.Extends (fun event => event.isBuild = true) after.live.world

/-- A world in which something was built leaves the session, its guards and the network alone. -/
theorem BuildsBeside.of_builds {stage : Stage Kind} {backend : DeviceBackend} {world : World}
    (builds : World.Builds backend stage.live.world world) (told : Nat) :
    stage.BuildsBeside ⟨{ stage.live with world }, stage.guards, told⟩ :=
  ⟨rfl, rfl, builds.network_eq, builds.journal_eq⟩

variable [Channel Kind]

/-- Creating a module builds beside the session. -/
theorem buildsBeside_createModule (stage : Stage Kind) (module : SourceModule) :
    stage.BuildsBeside (stage.play (.createModule module)).2 := by
  obtain ⟨world, builds, later_eq⟩ := stage.builds_createModule module
  rw [play]
  rcases ran : stage.createModule module with ⟨result, later⟩
  rw [ran] at later_eq
  cases later_eq
  exact .of_builds builds _

theorem buildsBeside_cross (stage : Stage Kind) (libType : LibType) (request : ExportRequest) :
    stage.BuildsBeside (stage.play (.cross libType request)).2 := by
  rw [play]
  exact .of_builds ((stage.live.session.crossCompiler libType).moves_compileArtifact request
    stage.live.world) _

end Stage

/-! ## One memory map -/

/-- Code that is compiled with the options is for the device that the parameters open a channel
to: both say the same of its toolchain and words, and the regions are those of the layout, one of
each kind in canonical order. -/
structure CompileOptions.Fits (options : CompileOptions) (params : ChannelParams) : Prop where
  toolchainPrefix : options.toolchainPrefix = some params.toolchainPrefix
  wordSize : options.wordSize = some params.wordSize
  thumbMode : options.thumbMode = params.thumbMode
  kinds : params.regions.map (·.kind) = RegionKind.all
  layout : ∃ layout, options.layout = some layout ∧ ∀ region,
    region ∈ params.regions ↔ layout.extent? region.kind = some ⟨region.base, region.size⟩

/-- If every kind is provided, looking up kinds finds a region of each of them. -/
theorem MemoryLayout.kinds_of_provides {layout : MemoryLayout}
    (provides : ∀ kind, layout.provides kind = true) (kinds : List RegionKind) :
    (kinds.filterMap layout.region?).map (·.kind) = kinds := by
  induction kinds with
  | nil => rfl
  | cons kind later ih =>
      rcases held : layout.extent? kind with _ | extent
      · have lacks := provides kind
        simp [MemoryLayout.provides, held] at lacks
      · have present : layout.region? kind = some ⟨kind, extent.start, extent.size⟩ := by
          simp [region?, held]
        rw [List.filterMap_cons_some present, List.map_cons, ih]

namespace Session

/-- What the backend is asked for the runtime and what the opener is asked for a channel fit. -/
theorem fits_runtimeParams {config : DeviceConfig}
    (provides : ∀ kind, config.memLayout.provides kind = true) (before : World) :
    (runtimeJob config before).options.Fits (runtimeParams config before) where
  toolchainPrefix := rfl
  wordSize := rfl
  thumbMode := rfl
  kinds := MemoryLayout.kinds_of_provides provides RegionKind.all
  layout := ⟨config.memLayout, rfl, fun _ => MemoryLayout.mem_regions⟩

/-- The backend was asked for the runtime, and then the opener for its channel. -/
theorem journal_of_build {setup : SessionSetup Kind} {config : DeviceConfig}
    {before opened : World} {session : Session Kind}
    (built : (build setup config).run before = (.ok session, opened)) :
    opened.journal = before.journal ++ [.compiling config.deviceId (runtimeJob config before),
      .opening (runtimeParams config before) true true] := by
  have ends := (passes_build setup config before).ends
  rw [built] at ends
  rcases first : firstFault? setup config before BuildStage.all with _ | ⟨stage, refusal⟩ <;>
    rw [first] at ends
  · obtain ⟨_, -, -, journal⟩ := ends
    exact journal
  · obtain ⟨_, impossible, -⟩ := ends
    cases impossible

/-- Since a world, one runtime was compiled, one channel was opened to go with it, and then
operators alone were compiled, with the options of the runtime. -/
def Served (before : World) (deviceId : String) (runtime : CompileJob) (params : ChannelParams)
    (after : World) : Prop :=
  ∃ events, after.journal =
      before.journal ++ .compiling deviceId runtime :: .opening params true true :: events ∧
    ∀ event ∈ events, event.Follows deviceId runtime.options

variable [Channel Kind]

/-- In the life of a session the backend is asked for one runtime, with the options of the
configuration, and the opener for one channel, which fits these options. However often the session
is used and operators are built in between, all of them are compiled with the options of the
runtime, and none of them has anything to do with the channel or with the state of the session. -/
theorem operators_match_runtime {setup : SessionSetup Kind} {config : DeviceConfig}
    {before opened : World} {session : Session Kind}
    (built : (build setup config).run before = (.ok session, opened)) :
    ∃ runtime params, runtime.libType = .runtime ∧ runtime.options = .ofConfig config ∧
      runtime.options.Fits params ∧
      ∀ steps passed, Step.allBuildOperators steps = true →
        (Stage.start session opened).Passes steps passed →
          Served before config.deviceId runtime params passed.live.world ∧
          (∀ finale, Served before config.deviceId runtime params
            (Script.finish passed finale).2.2) ∧
          (∀ module, passed.BuildsBeside (passed.play (.createModule module)).2) ∧
          ∀ request, passed.BuildsBeside (passed.play (.cross .operator request)).2 := by
  obtain ⟨regions, _, _, required, -, -, -, -, -, notClosed, got, config_eq⟩ := build_ok built
  obtain ⟨-, provides⟩ := MemoryLayout.requireAll_ok required
  have journal := journal_of_build built
  refine ⟨runtimeJob config before, runtimeParams config before, rfl, rfl,
    fits_runtimeParams provides before, ?_⟩
  intro steps passed operators passes
  have goesOn := Stage.goesOn_passes passes operators (Live.GoesOn.begin session opened)
  have outlives (after : World) (asks : opened.Extends (Event.Follows session.backend.deviceId
      (.ofConfig session.config)) after) :
      Served before config.deviceId (runtimeJob config before) (runtimeParams config before)
        after := by
    obtain ⟨events, extended, may⟩ := asks
    rw [Registry.deviceId_of_get got, config_eq] at may
    refine ⟨events, ?_, may⟩
    rw [extended, journal, List.append_assoc]
    rfl
  refine ⟨outlives _ goesOn.asks, ?_, passed.buildsBeside_createModule,
    passed.buildsBeside_cross .operator⟩
  intro finale
  have stillOpen : passed.live.session.isClosed = false :=
    Stage.invariant_notClosed.passes passes (fun _ => trivial) notClosed
  rw [Stage.world_finish stillOpen]
  have left : (passed.left finale).GoesOn session opened :=
    Stage.left_of_release (Live.GoesOn session opened) goesOn
      (Live.GoesOn.keptByCalls.release goesOn) finale
  exact outlives _ (left.drop (Stage.isClosed_left stillOpen finale))

/-- An operator is compiled in an entered session, and a module is built in the body of a scope. -/
theorem operators_match_in_scopes :
    let steps := [.enter, .cross .operator ⟨.one ⟨"mul.obj"⟩, .many [⟨"mul.c"⟩], some []⟩, .exit,
      .within [.createModule ⟨"add", "int add;"⟩] .returned]
    ∃ session opened, Simulation.benchBuild (fun _ => []) = (.ok session, opened) ∧
      Step.allBuildOperators steps = true ∧
      let passed := ((Stage.start session opened).playAll steps).2
      passed.live.world.journal.countP Event.isBuild = 4 ∧
        ∃ runtime params, runtime.libType = .runtime ∧ runtime.options.Fits params ∧
          Served Simulation.benchWorld "mock" runtime params passed.live.world ∧
          Served Simulation.benchWorld "mock" runtime params
            (Script.finish passed .close).2.2 := by
  intro steps
  obtain ⟨session, opened, built⟩ := Simulation.benchBuild_ok fun _ => []
  have operators : Step.allBuildOperators steps = true := by decide
  obtain ⟨runtime, params, isRuntime, -, fits, serves⟩ := operators_match_runtime built
  obtain ⟨served, outlives, -⟩ := serves steps _ operators (Stage.passes_playAll _ steps)
  have played : (Simulation.benchStage (fun _ => []) steps).map (fun stage =>
      stage.live.world.journal.countP Event.isBuild) = some 4 := by
    decide +kernel
  rw [Simulation.benchStage_of_built built] at played
  exact ⟨session, opened, built, operators, Option.some.inj played, runtime, params, isRuntime,
    fits, served, outlives .close⟩

end Session

end MicroDevice
