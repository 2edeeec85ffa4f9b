import MicroDevice.Proofs.Build.Registry
import MicroDevice.Proofs.Session.Ending
import MicroDevice.Proofs.Session.Creation

/-! # What creations and sessions leave in place

Whatever comes of them, creating a module and building a session leave in place what a path denotes
if the backend does (`leaves_createModule`, `Session.leaves_build`), and so do all operations of a
session (`Stage.invariant_spares`). A session that is dropped does nothing to the files but remove
its directory (`Live.workshop_drop`).
-/

namespace MicroDevice

namespace World

/-- What a path denotes is left in place, as long as the tools are the given ones. -/
def Leaves (toolbox : Toolbox) (path : Path) (before after : World) : Prop :=
  before.workshop.Leaves toolbox path after.workshop

variable {toolbox : Toolbox} {path : Path} {location : Location}

instance (toolbox : Toolbox) (path : Path) : IsPreorder World (Leaves toolbox path) where
  refl world := refl_of (Workshop.Leaves toolbox path) world.workshop
  trans _ _ _ first second := trans_of (Workshop.Leaves toolbox path) first second

/-- Builds through a backend that keeps a path leave it in place. -/
theorem leaves_of_builds {Error Answer : Type} {backend : DeviceBackend}
    {action : Action World Error Answer} (builds : action.Moves (Builds backend))
    (spells : path.Spells location) (keeps : backend.Keeps toolbox path) :
    action.Moves (Leaves toolbox path) :=
  builds.weaken fun _ _ built => built.leaves toolbox path location spells keeps

/-- What only adds to the file tree leaves every path in place. -/
theorem leaves_of_grows {Error Answer : Type} {action : Action Workshop Error Answer}
    (grows : action.Moves Workshop.Grows) (spells : path.Spells location) :
    (inWorkshop action).Moves (Leaves toolbox path) :=
  fun world => (grows world.workshop).leaves toolbox spells

/-- Work in a temporary directory leaves in place what it leaves in place otherwise, whether the
directory stays or is removed. -/
theorem leaves_inTemporary (spells : path.Spells location) {stem : String}
    (noSlash : '/' ∉ stem.toList) {Answer : Type} {work : Path → Action World SessionError Answer}
    (works : ∀ directory, (work directory).Moves (Leaves toolbox path)) :
    (inWorkshop ((Workshop.makeTemporary stem).widen .io) >>= fun directory =>
      (work directory).orTidy (removeAll directory)).Moves (Leaves toolbox path) := by
  have makesOne : (inWorkshop ((Workshop.makeTemporary stem).widen SessionError.io)).Moves
      (Leaves toolbox path) :=
    leaves_of_grows ((Workshop.grows_makeTemporary noSlash).widen SessionError.io) spells
  intro world
  have begins := makesOne world
  rw [Action.run_bind]
  rcases makes : (inWorkshop ((Workshop.makeTemporary stem).widen SessionError.io)).run world with
    ⟨error | directory, housed⟩ <;> rw [makes] at begins
  · exact begins
  · have vacant := vacant_of_makeTemporary noSlash makes
    have worked := works directory housed
    dsimp only
    rw [Action.run_orTidy]
    rcases ran : (work directory).run housed with ⟨error | answer, left⟩ <;> rw [ran] at worked
    · intro same
      obtain ⟨sameTools, stays⟩ := trans_of (Leaves toolbox path) begins worked same
      exact ⟨sameTools, fun present => vacant.contains_removeAll spells present (stays present)⟩
    · exact trans_of (Leaves toolbox path) begins worked

end World

section Leaves

variable {Kind : Type} {toolbox : Toolbox} {path : Path} {location : Location}

/-- Writing the runtime source only adds to the file tree. -/
theorem Sources.moves_writeRuntime (directory : Path) :
    (writeRuntime directory).Moves Workshop.Grows :=
  (Workshop.moves_write _ _).bind fun _ => Action.moves_pure _

/-- Creating a module leaves in place what the registered backend keeps. -/
theorem leaves_createModule {registry : Registry} {config : DeviceConfig}
    (spells : path.Spells location)
    (keeps : ∀ backend, registry.find? config.deviceId = some backend →
      backend.Keeps toolbox path) (module : SourceModule) :
    (createModule registry loadObject module config).Moves (World.Leaves toolbox path) := by
  refine Action.moves_ofResult_bind fun compiler made => ?_
  rcases found : registry.find? config.deviceId with _ | backend
  · rw [CrossCompiler.make_of_unknown found] at made
    cases made
  · rw [CrossCompiler.make_of_found found] at made
    cases made
    refine World.leaves_of_builds ?_ spells (keeps backend found)
    intro world
    exact (builds_buildModule (.ofConfig backend config .operator) loadObject module world).1

/-- Creating a module through a session leaves in place what the backend of the session keeps. -/
theorem Session.leaves_buildModule {session : Session Kind} (spells : path.Spells location)
    (keeps : session.backend.Keeps toolbox path) (module : SourceModule) :
    (session.createModule module).Moves (World.Leaves toolbox path) := by
  refine World.leaves_of_builds ?_ spells keeps
  intro world
  exact (builds_buildModule (session.crossCompiler .operator) loadObject module world).1

/-- Building a session leaves in place what the registered backend keeps. -/
theorem Session.leaves_build {setup : SessionSetup Kind} {config : DeviceConfig}
    (spells : path.Spells location)
    (keeps : ∀ backend, setup.registry.find? config.deviceId = some backend →
      backend.Keeps toolbox path) : (build setup config).Moves (World.Leaves toolbox path) := by
  refine (Action.moves_ofResult _).bind fun _ => ?_
  refine Action.moves_ofResult_bind fun backend got => ?_
  have kept := keeps backend (Registry.find_of_get (Action.mapError_eq_ok.mp got))
  refine (Action.moves_ofResult _).bind fun regions => ?_
  refine (Action.moves_ofResult _).bind fun _ => ?_
  refine World.leaves_inTemporary spells (by decide) fun directory => ?_
  have writes : (World.inWorkshop (Sources.writeRuntime directory)).Moves
      (World.Leaves toolbox path) :=
    World.leaves_of_grows (Sources.moves_writeRuntime directory) spells
  have compiles : (compileRuntime backend config directory).Moves (World.Leaves toolbox path) := by
    refine writes.bind fun source => ?_
    refine (World.leaves_of_builds (backend.moves_request _) spells kept).bind fun _ => ?_
    exact World.leaves_of_grows (Workshop.moves_look _) spells
  refine (compiles.widen SessionError.build).bind fun runtime => ?_
  refine (Action.moves_ofResult _).bind fun transport => ?_
  -- an opener is given the file tree to look at, and only the network changes
  have opens : (openChannel setup.opener (channelParams config regions transport runtime)).Moves
      (World.Leaves toolbox path) :=
    fun world => refl_of (Workshop.Leaves toolbox path) world.workshop
  exact opens.bind fun _ => Action.moves_pure _

end Leaves

/-! ## Sessions among others -/

/-- A session keeps its directory, its runtime and its backend, and what a path denotes is left in
place. -/
structure Live.Spares {Kind : Type} (toolbox : Toolbox) (path : Path) (session : Session Kind)
    (before : World) (live : Live Kind) : Prop where
  directory_eq : live.session.directory = session.directory
  runtime_eq : live.session.runtime = session.runtime
  backend_eq : live.session.backend = session.backend
  leaves : before.Leaves toolbox path live.world

section Spares

variable {Kind : Type} {toolbox : Toolbox} {path : Path} {session : Session Kind}
  {before : World} {live : Live Kind}

namespace Live.Spares

theorem begin (toolbox : Toolbox) (path : Path) (session : Session Kind) (before : World) :
    Live.Spares toolbox path session before ⟨session, before⟩ :=
  ⟨rfl, rfl, rfl, refl_of (World.Leaves toolbox path) before⟩

variable [Channel Kind]

/-- A channel that is asked does nothing to the files. -/
theorem ask (spares : live.Spares toolbox path session before) {hook : Hook}
    {result : Except SessionError Unit} {after : Live Kind} (asked : Asked hook live result after) :
    after.Spares toolbox path session before := by
  refine ⟨?_, ?_, ?_, ?_⟩
  · rw [asked.session_eq]
    exact spares.directory_eq
  · rw [asked.session_eq]
    exact spares.runtime_eq
  · rw [asked.session_eq]
    exact spares.backend_eq
  · rw [World.Leaves, asked.workshop_eq]
    exact spares.leaves

theorem keptByCalls : KeptByCalls (Live.Spares toolbox path session before) where
  ask _ _ _ _ _ spares asked := spares.ask asked
  setPhase _ _ spares :=
    ⟨spares.directory_eq, spares.runtime_eq, spares.backend_eq, spares.leaves⟩

end Live.Spares

variable [Channel Kind]

/-- The operations of a session leave in place what its backend leaves in place. -/
theorem Stage.invariant_spares {location : Location} (spells : path.Spells location)
    (session : Session Kind) (before : World) :
    Stage.Invariant (session.backend.Keeps toolbox path)
      fun stage => stage.live.Spares toolbox path session before := by
  refine Stage.invariant_of_calls Live.Spares.keptByCalls fun keeps live world spares builds => ?_
  rw [← spares.backend_eq] at keeps
  have built : live.world.Leaves toolbox path world :=
    builds.leaves toolbox path location spells keeps
  exact ⟨spares.directory_eq, spares.runtime_eq, spares.backend_eq,
    trans_of (World.Leaves toolbox path) spares.leaves built⟩

namespace Live

/-- A session that is released keeps its directory, and nothing is done to the files. -/
theorem release_eq (live : Live Kind) :
    live.release.session.directory = live.session.directory ∧
      live.release.world.workshop = live.world.workshop := by
  refine release_cases live ?_ ?_
  · exact fun _ => ⟨rfl, rfl⟩
  · intro _ result after asked
    rw [asked.session_eq, asked.workshop_eq]
    exact ⟨rfl, rfl⟩

/-- All that dropping a session does to the files is to remove its directory. -/
theorem workshop_drop {live : Live Kind} (notClosed : live.session.isClosed = false) :
    live.drop.workshop = live.world.workshop.removeAll live.session.directory := by
  obtain ⟨result, shut, asked, dropped⟩ := dropping notClosed
  rw [dropped, World.removeAll, asked.workshop_eq]

end Live

end Spares

end MicroDevice
