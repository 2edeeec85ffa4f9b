import MicroDevice.Proofs.Session.Opening
import MicroDevice.Session.Script

/-! # What a build does to a world

A build through a session asks its backend, in the journal and in the workshop, and does
nothing to the network (`World.Builds`). It leaves in place whatever the backend leaves in
place: the temporary directory that it makes and removes was not there before.
-/

namespace MicroDevice

variable {Kind : Type}

def Event.isBuild : Event → Bool
  | .compiling _ _ => true
  | .exporting _ => true
  | _ => false

/-- A build makes no call of a channel. -/
theorem Event.call_of_isBuild {event : Event} (building : event.isBuild = true) :
    event.call? = none := by
  cases event <;> simp_all [isBuild, call?]

/-- What builds through a backend do to a world. -/
structure World.Builds (backend : DeviceBackend) (before after : World) : Prop where
  network_eq : after.network = before.network
  journal_eq : ∃ events, after.journal = before.journal ++ events ∧
    ∀ event ∈ events, event.isBuild = true
  leaves : ∀ toolbox path location, path.Spells location → backend.Keeps toolbox path →
    before.workshop.Leaves toolbox path after.workshop

namespace World

variable {backend : DeviceBackend}

theorem Builds.refl (world : World) : Builds backend world world :=
  ⟨rfl, ⟨[], by simp⟩, fun toolbox path _ _ _ => refl_of (Workshop.Leaves toolbox path) _⟩

theorem Builds.trans {first second third : World} (before : Builds backend first second)
    (after : Builds backend second third) : Builds backend first third := by
  obtain ⟨earlier, journal, areBuilds⟩ := before.journal_eq
  obtain ⟨later, extended, alsoBuilds⟩ := after.journal_eq
  refine ⟨after.network_eq.trans before.network_eq, ⟨earlier ++ later, ?_, ?_⟩, ?_⟩
  · rw [extended, journal, List.append_assoc]
  · intro event member
    exact (List.mem_append.mp member).elim (areBuilds event) (alsoBuilds event)
  · intro toolbox path location spells kept
    exact trans_of (Workshop.Leaves toolbox path) (before.leaves toolbox path location spells kept)
      (after.leaves toolbox path location spells kept)

instance : IsPreorder World (Builds backend) where
  refl := Builds.refl
  trans _ _ _ := Builds.trans

/-- A build makes no calls of channels. -/
theorem Builds.calls_eq {before after : World} (builds : Builds backend before after) :
    after.calls = before.calls := by
  obtain ⟨events, journal, areBuilds⟩ := builds.journal_eq
  have none : events.filterMap Event.call? = [] :=
    List.filterMap_eq_nil_iff.mpr fun event member =>
      Event.call_of_isBuild (areBuilds event member)
  rw [calls, journal, List.filterMap_append, none, List.append_nil]
  rfl

theorem moves_note {event : Event} (building : event.isBuild = true) :
    (Action.change (note event) : Action World BuildError Unit).Moves (Builds backend) :=
  Action.moves_change fun _ => ⟨rfl, ⟨[event], by simp [building]⟩,
    fun toolbox path _ _ _ => refl_of (Workshop.Leaves toolbox path) _⟩

/-- Adding to the file tree is no more than a build does. -/
theorem moves_inWorkshop {Error Answer : Type} {action : Action Workshop Error Answer}
    (grows : action.Moves Workshop.Grows) : (inWorkshop action).Moves (Builds backend) :=
  fun world => ⟨rfl, ⟨[], (List.append_nil _).symm, by simp⟩,
    fun toolbox _ _ spells _ => (grows world.workshop).leaves toolbox spells⟩

theorem moves_look {Error Answer : Type} (view : FileTree → Except Error Answer) :
    (look view).Moves (Builds backend) :=
  Builds.refl

/-- Removing a directory that was not there before is no more than a build does. -/
theorem Builds.removeAll {before after : World} {directory : Path}
    (vacant : before.files.Vacant directory) (builds : Builds backend before after) :
    Builds backend before (after.removeAll directory) := by
  refine ⟨builds.network_eq, builds.journal_eq, ?_⟩
  intro toolbox path location spells kept same
  obtain ⟨sameTools, stays⟩ := builds.leaves toolbox path location spells kept same
  exact ⟨sameTools, fun present => vacant.contains_removeAll spells present (stays present)⟩

end World

/-- Asking a backend for a compilation is a step of builds through it. -/
theorem DeviceBackend.moves_request (backend : DeviceBackend) (job : CompileJob) :
    (backend.request job).Moves (World.Builds backend) := by
  refine (World.moves_note rfl).bind fun _ world => ?_
  exact ⟨rfl, ⟨[], (List.append_nil _).symm, by simp⟩,
    fun toolbox path _ _ keeps => keeps job world.workshop⟩

namespace CrossCompiler

/-- A compilation by a cross compiler builds through its backend. -/
theorem moves_compile (compiler : CrossCompiler) (request : ExportRequest) :
    (compiler.compile request).Moves (World.Builds compiler.backend) :=
  (Action.moves_ofResult _).bind fun _ => (Action.moves_ofResult _).bind fun _ =>
    compiler.backend.moves_request _

theorem moves_compileArtifact (compiler : CrossCompiler) (request : ExportRequest) :
    (compiler.compileArtifact request).Moves (World.Builds compiler.backend) := by
  refine (Action.moves_ofResult _).bind fun object => ?_
  refine (compiler.moves_compile _).bind fun _ => ?_
  exact World.moves_inWorkshop ((Workshop.moves_look _))

end CrossCompiler

/-- Exporting the library of a module builds through the backend of its compiler. -/
theorem SourceModule.moves_exportLibrary (module : SourceModule) (library : Path)
    (compiler : CrossCompiler) :
    (module.exportLibrary library compiler.exportCompiler).Moves
      (World.Builds compiler.backend) := by
  unfold exportLibrary
  split
  · refine (World.moves_inWorkshop ((Workshop.moves_put _ _).widen SessionError.io)).bind
      fun _ => ?_
    refine Action.Moves.widen ?_ SessionError.build
    exact (World.moves_note rfl).bind fun _ => compiler.moves_compile _
  · exact Action.moves_ofResult _

theorem moves_buildModuleIn (compiler : CrossCompiler) (loader : ModuleLoader)
    (module : SourceModule) (directory : Path) :
    (buildModuleIn compiler.exportCompiler loader module directory).Moves
      (World.Builds compiler.backend) := by
  refine (module.moves_exportLibrary _ compiler).bind fun _ => ?_
  exact (World.moves_look _).bind fun _ => Action.moves_pure _

/-- A temporary directory is made where nothing was. -/
theorem World.vacant_of_makeTemporary {stem : String} (noSlash : '/' ∉ stem.toList)
    {wider : IoFault → SessionError} {before after : World} {directory : Path}
    (makes : (inWorkshop ((Workshop.makeTemporary stem).widen wider)).run before =
      (.ok directory, after)) : before.files.Vacant directory := by
  obtain ⟨made, -⟩ := run_inWorkshop_ok makes
  obtain ⟨_, temporary, -⟩ := Workshop.makeTemporary_ok (Action.run_widen_ok made)
  exact FileTree.vacant_of_makeTemporary noSlash temporary

/-- Building a module is a build, and the directory of a module that is loaded is new. -/
theorem builds_buildModule (compiler : CrossCompiler) (loader : ModuleLoader)
    (module : SourceModule) (world : World) :
    World.Builds compiler.backend world
        ((buildModule compiler.exportCompiler loader module).run world).2 ∧
      ∀ loaded later, (buildModule compiler.exportCompiler loader module).run world =
          (.ok loaded, later) →
        ∃ directory, loaded.directory = some directory ∧ world.files.Vacant directory := by
  have makesOne : (World.inWorkshop ((Workshop.makeTemporary "micrort-mod-").widen
      SessionError.io)).Moves (World.Builds compiler.backend) :=
    World.moves_inWorkshop ((Workshop.grows_makeTemporary (by decide)).widen SessionError.io)
  have begins := makesOne world
  rw [buildModule, Action.run_bind]
  rcases makes : (World.inWorkshop ((Workshop.makeTemporary "micrort-mod-").widen
    SessionError.io)).run world with ⟨error | directory, housed⟩ <;> rw [makes] at begins
  · refine ⟨begins, fun loaded later failed => ?_⟩
    cases failed
  · have vacant := World.vacant_of_makeTemporary (by decide) makes
    have works := begins.trans (moves_buildModuleIn compiler loader module directory housed)
    dsimp only
    rw [Action.run_orTidy]
    rcases ran : (buildModuleIn compiler.exportCompiler loader module directory).run housed
      with ⟨error | built, left⟩ <;> rw [ran] at works
    · refine ⟨works.removeAll vacant, fun loaded later failed => ?_⟩
      cases failed
    · refine ⟨works, fun loaded later done => ?_⟩
      cases done
      obtain ⟨_, _, -, looked⟩ := Action.run_bind_ok ran
      obtain ⟨_, _, -, answered⟩ := Action.run_bind_ok looked
      cases answered
      exact ⟨directory, rfl, vacant⟩

namespace Stage

/-- Building a module through a session and giving it up again is a build. -/
theorem builds_createModule (stage : Stage Kind) (module : SourceModule) :
    ∃ world, World.Builds stage.live.session.backend stage.live.world world ∧
      (stage.createModule module).2 = { stage with live := { stage.live with world } } := by
  obtain ⟨builds, fresh⟩ := builds_buildModule (stage.live.session.crossCompiler .operator)
    loadObject module stage.live.world
  unfold createModule actInWorld Session.createModule
  rcases ran : (buildModule (stage.live.session.crossCompiler .operator).exportCompiler
    loadObject module).run stage.live.world with ⟨error | loaded, later⟩ <;> rw [ran] at builds
  · exact ⟨later, builds, rfl⟩
  · obtain ⟨directory, owned, vacant⟩ := fresh loaded later ran
    refine ⟨later.removeAll directory, builds.removeAll vacant, ?_⟩
    simp only [MicroModule.release, owned]

end Stage

end MicroDevice
