import Mathlib.Data.List.Perm.Basic
import MicroDevice.Proofs.Session.Closing
import MicroDevice.Proofs.Session.Sparing

/-! # Modules and sessions side by side

Several modules and sessions may be alive in one world, each with a temporary directory of its own
that goes when its owner goes. A household is a world with those that live in it. What is done in
it one thing after another keeps each of them in its directory, with its file in place, and nobody
else's (`Household.Settled`), as long as backends leave alone what they are not asked for.
-/

namespace MicroDevice

/-- All that is in a directory is as it was. -/
def FileTree.SameIn (directory : Path) (before after : FileTree) : Prop :=
  ∃ place, directory.Spells place ∧
    ∀ location, place <+: location → after.entry? location = before.entry? location

/-! ## Those who live in a world -/

/-- A module or a session that is alive, the latter with its guards. -/
inductive Resident (Kind : Type) where
  | loaded (module : MicroModule)
  | opened (session : Session Kind) (guards : List Guard)

namespace Resident

variable {Kind : Type}

/-- The directory that a resident owns. -/
def directory? : Resident Kind → Option Path
  | .loaded module => module.directory
  | .opened session _ => some session.directory

/-- The file that a resident needs: its library or its runtime. -/
def file : Resident Kind → Path
  | .loaded module => module.artifact.path
  | .opened session _ => session.runtime.path

/-- How the names of the directories begin. -/
def stem : Resident Kind → String
  | .loaded _ => "micrort-mod-"
  | .opened _ _ => "micrort-session-"

/-- The name of the file. -/
def fileName : Resident Kind → String
  | .loaded _ => libraryName
  | .opened _ _ => Session.runtimeObjectName

/-- The backend that a resident builds with, if it builds. -/
def backend? : Resident Kind → Option DeviceBackend
  | .loaded _ => none
  | .opened session _ => some session.backend

/-- Whether a resident was told to close. -/
def isClosed : Resident Kind → Bool
  | .loaded _ => false
  | .opened session _ => session.isClosed

/-- What is left of the world once a resident is dropped, a session as it is told. -/
def leave [Channel Kind] (resident : Resident Kind) (finale : Finale) (world : World) : World :=
  match resident with
  | .loaded module => module.release world
  | .opened session guards => (Script.finish ⟨⟨session, world⟩, guards, 0⟩ finale).2.2

/-- A resident has a temporary directory, in which its file is, and was not told to close. -/
structure Housed (resident : Resident Kind) (files : FileTree) : Prop where
  place : ∃ number,
    resident.directory? = some (FileTree.temporaryPath resident.stem number) ∧
      resident.file = (FileTree.temporaryPath resident.stem number).join resident.fileName
  present : files.contains resident.file = true
  notClosed : resident.isClosed = false

/-- A resident in the directory of a module is a module. -/
theorem loaded_of_stem {resident : Resident Kind} (isModule : resident.stem = "micrort-mod-") :
    ∃ module, resident = .loaded module := by
  cases resident with
  | loaded module => exact ⟨module, rfl⟩
  | opened session guards =>
      have same : "micrort-session-" = "micrort-mod-" := isModule
      exact absurd same (by decide)

/-- A resident in the directory of a session is a session. -/
theorem opened_of_stem {resident : Resident Kind}
    (isSession : resident.stem = "micrort-session-") :
    ∃ session guards, resident = .opened session guards := by
  cases resident with
  | loaded module =>
      have same : "micrort-mod-" = "micrort-session-" := isSession
      exact absurd same (by decide)
  | opened session guards => exact ⟨session, guards, rfl⟩

/-- The stems of the directories hold no slash. -/
theorem noSlash_stem (resident : Resident Kind) : '/' ∉ resident.stem.toList := by
  have modules : '/' ∉ "micrort-mod-".toList := by decide
  have sessions : '/' ∉ "micrort-session-".toList := by decide
  cases resident with
  | loaded module => exact modules
  | opened session guards => exact sessions

/-- The file of a resident has a plain name. -/
theorem plain_fileName (resident : Resident Kind) :
    '/' ∉ resident.fileName.toList ∧ Path.isTrivial resident.fileName.toList = false ∧
      resident.fileName.toList ≠ Path.upward := by
  have modules : '/' ∉ libraryName.toList ∧ Path.isTrivial libraryName.toList = false ∧
      libraryName.toList ≠ Path.upward := by decide
  have sessions : '/' ∉ Session.runtimeObjectName.toList ∧
      Path.isTrivial Session.runtimeObjectName.toList = false ∧
      Session.runtimeObjectName.toList ≠ Path.upward := by decide
  cases resident with
  | loaded module => exact modules
  | opened session guards => exact sessions

/-- The directory of a resident spells a temporary location. -/
theorem spells_directory (resident : Resident Kind) (number : Nat) :
    (FileTree.temporaryPath resident.stem number).Spells
      (FileTree.temporaryLocation resident.stem number) :=
  FileTree.spells_temporary resident.noSlash_stem number

/-- The file of a resident is right below its directory. -/
theorem spells_file (resident : Resident Kind) (number : Nat) :
    ((FileTree.temporaryPath resident.stem number).join resident.fileName).Spells
      (FileTree.temporaryLocation resident.stem number ++ [resident.fileName.toList]) := by
  obtain ⟨noSlash, plain⟩ := resident.plain_fileName
  exact (resident.spells_directory number).join (FileTree.temporaryLocation_ne _ _) noSlash plain

namespace Housed

variable {resident : Resident Kind} {files : FileTree}

/-- The file of a housed resident spells a location. -/
theorem spells (housed : resident.Housed files) : ∃ location, resident.file.Spells location := by
  obtain ⟨number, -, file_eq⟩ := housed.place
  rw [file_eq]
  exact ⟨_, resident.spells_file number⟩

/-- A resident stays in its directory as long as its file is left in place. -/
theorem stay (housed : resident.Housed files) {later : FileTree}
    (kept : later.contains resident.file = true) : resident.Housed later :=
  ⟨housed.place, kept, housed.notClosed⟩

/-- A directory that was not there is not that of a resident. -/
theorem directory_ne (housed : resident.Housed files) {directory : Path}
    (vacant : files.Vacant directory) : resident.directory? ≠ some directory := by
  obtain ⟨number, directory_eq, file_eq⟩ := housed.place
  intro same
  rw [same, Option.some.injEq] at directory_eq
  have spelled := resident.spells_file number
  rw [← file_eq] at spelled
  have held := ((files.contains_iff_holds spelled).mp housed.present).2
  have inside := held.entry_above (List.prefix_append _ _)
  rw [directory_eq] at vacant
  rw [vacant.entry_eq_none (resident.spells_directory number)] at inside
  cases inside

/-- Removing the directory of another resident leaves a file in place. -/
theorem spare (housed : resident.Housed files) (other : Resident Kind) {number : Nat}
    (apart : resident.directory? ≠ some (FileTree.temporaryPath other.stem number)) :
    (files.removeAll (FileTree.temporaryPath other.stem number)).contains resident.file = true := by
  obtain ⟨own, directory_eq, file_eq⟩ := housed.place
  have spelled := resident.spells_file own
  rw [← file_eq] at spelled
  obtain ⟨allowed, held⟩ := (files.contains_iff_holds spelled).mp housed.present
  refine (FileTree.contains_iff_holds _ spelled).mpr ⟨allowed, ?_⟩
  refine held.removeAll (other.spells_directory number) fun below => apart ?_
  rw [directory_eq, FileTree.temporaryPath_of_prefix below]

/-- Removing the directory of another resident leaves all that is in a directory as it was. -/
theorem sameIn (housed : resident.Housed files) (other : Resident Kind) {number : Nat}
    (apart : resident.directory? ≠ some (FileTree.temporaryPath other.stem number)) :
    ∃ directory, resident.directory? = some directory ∧
      FileTree.SameIn directory files
        (files.removeAll (FileTree.temporaryPath other.stem number)) := by
  obtain ⟨own, directory_eq, -⟩ := housed.place
  refine ⟨_, directory_eq, _, resident.spells_directory own, fun location within => ?_⟩
  refine files.entry_removeAll (other.spells_directory number) fun below => apart ?_
  obtain ⟨names, rfl⟩ := within
  rw [directory_eq, FileTree.temporaryPath_of_prefix below]

end Housed

end Resident

/-- All that dropping a resident does to the files is to remove its directory. -/
theorem Resident.workshop_leave {Kind : Type} [Channel Kind] {resident : Resident Kind}
    {directory : Path}
    (owns : resident.directory? = some directory) (notClosed : resident.isClosed = false)
    (finale : Finale) (world : World) :
    (resident.leave finale world).workshop = world.workshop.removeAll directory := by
  cases resident with
  | loaded module =>
      have owned : module.directory = some directory := owns
      simp only [leave, MicroModule.release, owned, World.removeAll]
  | opened session guards =>
      cases owns
      have stillOpen : (Stage.mk ⟨session, world⟩ guards 0).live.session.isClosed = false :=
        notClosed
      have left := @Stage.left_of_release Kind _ (fun live =>
        live.session.directory = session.directory ∧ live.world.workshop = world.workshop)
        ⟨⟨session, world⟩, guards, 0⟩ ⟨rfl, rfl⟩ (Live.release_eq _) finale
      rw [leave, Stage.world_finish stillOpen,
        Live.workshop_drop (Stage.isClosed_left stillOpen finale), left.1, left.2]

/-! ## Households -/

/-- A world and those who live in it. -/
structure Household (Kind : Type) where
  world : World
  residents : List (Resident Kind)

/-- Something that is done in a household, where a resident is named by its place. -/
inductive Deed (Kind : Type) where
  | createModule (registry : Registry) (module : SourceModule) (config : DeviceConfig)
  | buildSession (setup : SessionSetup Kind) (config : DeviceConfig)
  /-- A session creates a module, which does not depend on it after that. -/
  | createThrough (place : Nat) (module : SourceModule)
  | play (place : Nat) (steps : List Step)
  /-- A resident is dropped. It is told how if it is a session. -/
  | leave (place : Nat) (finale : Finale)

namespace Household

variable {Kind : Type}

/-- A household of nobody. -/
def empty (world : World) : Household Kind :=
  ⟨world, []⟩

/-- The household with one more resident, if there is one. -/
def receive (household : Household Kind) (result : Except SessionError (Resident Kind))
    (world : World) : Household Kind :=
  ⟨world, household.residents ++ result.toOption.toList⟩

/-- The backend that a deed asks, if it asks one. -/
def backend? (household : Household Kind) : Deed Kind → Option DeviceBackend
  | .createModule registry _ config => registry.find? config.deviceId
  | .buildSession setup config => setup.registry.find? config.deviceId
  | .createThrough place _ => household.residents[place]?.bind Resident.backend?
  | .play place _ => household.residents[place]?.bind Resident.backend?
  | .leave _ _ => none

/-- Whatever backend a deed asks, it leaves the files of all residents in place. -/
def Safe (household : Household Kind) (deed : Deed Kind) : Prop :=
  ∀ backend, household.backend? deed = some backend → ∀ resident ∈ household.residents,
    backend.Keeps household.world.workshop.toolbox resident.file

/-- Each resident is in a directory of its own. -/
structure Settled (household : Household Kind) : Prop where
  housed : ∀ resident ∈ household.residents, resident.Housed household.world.files
  apart : (household.residents.map Resident.directory?).Nodup

namespace Settled

variable {household : Household Kind}

theorem empty (world : World) : (empty world : Household Kind).Settled :=
  ⟨List.forall_mem_nil _, List.nodup_nil⟩

/-- A resident and the others have different directories. -/
theorem apart_from (settled : household.Settled) {place : Nat} {resident : Resident Kind}
    (found : household.residents[place]? = some resident) :
    (resident.directory? ::
      (household.residents.eraseIdx place).map Resident.directory?).Nodup := by
  obtain ⟨inside, rfl⟩ := List.getElem?_eq_some_iff.mp found
  have order := (List.getElem_cons_eraseIdx_perm inside).map Resident.directory?
  rw [← List.map_cons]
  exact order.nodup_iff.mpr settled.apart

/-- The others have other directories. -/
theorem others_apart (settled : household.Settled) {place : Nat} {resident other : Resident Kind}
    {directory : Path} (found : household.residents[place]? = some resident)
    (owns : resident.directory? = some directory)
    (member : other ∈ household.residents.eraseIdx place) :
    other.directory? ≠ some directory := by
  obtain ⟨notTaken, -⟩ := List.nodup_cons.mp (settled.apart_from found)
  intro same
  exact notTaken (List.mem_map.mpr ⟨other, member, same.trans owns.symm⟩)

/-- A resident in a place of another one who had its directory. -/
theorem replace (settled : household.Settled) {place : Nat} {resident new : Resident Kind}
    (found : household.residents[place]? = some resident)
    (same : new.directory? = resident.directory?) {world : World} (housed : new.Housed world.files)
    (stay : ∀ other ∈ household.residents, other.Housed world.files) :
    (Household.mk world (household.residents.set place new)).Settled := by
  obtain ⟨inside, -⟩ := List.getElem?_eq_some_iff.mp found
  have order := List.set_perm_cons_eraseIdx inside new
  refine ⟨fun other member => ?_, ?_⟩
  · rcases List.mem_cons.mp (order.mem_iff.mp member) with rfl | before
    · exact housed
    · exact stay other (List.mem_of_mem_eraseIdx before)
  · rw [(order.map Resident.directory?).nodup_iff, List.map_cons, same]
    exact settled.apart_from found

/-- What leaves the files of residents in place leaves the residents housed. -/
theorem housed_of_leaves (settled : household.Settled) {later : World}
    (leaves : ∀ resident ∈ household.residents, ∀ location, resident.file.Spells location →
      household.world.Leaves household.world.workshop.toolbox resident.file later)
    {resident : Resident Kind} (member : resident ∈ household.residents) :
    resident.Housed later.files := by
  have housed := settled.housed resident member
  obtain ⟨location, spells⟩ := housed.spells
  exact housed.stay ((leaves resident member location spells rfl).2 housed.present)

/-- A newcomer in a new directory settles, and a failure to get one leaves the others settled. -/
theorem receive {Answer : Type} (settled : household.Settled)
    {action : Action World SessionError Answer} (enter : Answer → Resident Kind)
    (leaves : ∀ resident ∈ household.residents, ∀ location, resident.file.Spells location →
      action.Moves (World.Leaves household.world.workshop.toolbox resident.file))
    (newcomer : ∀ answer later, action.run household.world = (.ok answer, later) →
      (enter answer).Housed later.files ∧ ∃ directory,
        (enter answer).directory? = some directory ∧ household.world.files.Vacant directory) :
    (household.receive ((action.run household.world).1.map enter)
      (action.run household.world).2).Settled := by
  have stay {resident : Resident Kind} (member : resident ∈ household.residents) :=
    settled.housed_of_leaves (fun other isOther location spells =>
      leaves other isOther location spells household.world) member
  rcases ran : action.run household.world with ⟨error | answer, later⟩ <;> rw [ran] at stay
  · refine ⟨fun resident member => stay ?_, ?_⟩
    · simpa [Household.receive, Except.map, Except.toOption] using member
    · simpa [Household.receive, Except.map, Except.toOption] using settled.apart
  · obtain ⟨housed, directory, owns, vacant⟩ := newcomer answer later ran
    have residents_eq : (household.receive ((Except.ok answer : Except SessionError Answer).map enter)
        later).residents = household.residents ++ [enter answer] := rfl
    refine ⟨fun resident member => ?_, ?_⟩
    · rw [residents_eq, List.mem_append, List.mem_singleton] at member
      rcases member with before | rfl
      · exact stay before
      · exact housed
    · rw [residents_eq, List.map_append, List.map_singleton, List.nodup_append]
      refine ⟨settled.apart, List.pairwise_singleton _ _, fun taken isTaken new isNew same => ?_⟩
      obtain ⟨other, isOther, rfl⟩ := List.mem_map.mp isTaken
      rw [List.mem_singleton.mp isNew, owns] at same
      exact (settled.housed other isOther).directory_ne vacant same

end Settled

variable [Channel Kind]

/-- Do something in a household. -/
def perform (household : Household Kind) : Deed Kind → Household Kind
  | .createModule registry module config =>
      let (result, world) := (createModule registry loadObject module config).run household.world
      household.receive (result.map .loaded) world
  | .buildSession setup config =>
      let (result, world) := (Session.build setup config).run household.world
      household.receive (result.map fun session => .opened session []) world
  | .createThrough place module =>
      match household.residents[place]? with
      | some (.opened session _) =>
          let (result, world) := (session.createModule module).run household.world
          household.receive (result.map .loaded) world
      | _ => household
  | .play place steps =>
      match household.residents[place]? with
      | some (.opened session guards) =>
          let stage := (Stage.playAll ⟨⟨session, household.world⟩, guards, 0⟩ steps).2
          ⟨stage.live.world,
            household.residents.set place (.opened stage.live.session stage.guards)⟩
      | _ => household
  | .leave place finale =>
      match household.residents[place]? with
      | some resident =>
          ⟨resident.leave finale household.world, household.residents.eraseIdx place⟩
      | none => household

/-- Do one thing after another. -/
def performAll (household : Household Kind) (deeds : List (Deed Kind)) : Household Kind :=
  deeds.foldl perform household

theorem performAll_singleton (household : Household Kind) (deed : Deed Kind) :
    household.performAll [deed] = household.perform deed := rfl

theorem performAll_append (household : Household Kind) (earlier later : List (Deed Kind)) :
    household.performAll (earlier ++ later) = (household.performAll earlier).performAll later :=
  List.foldl_append

/-- All of what is done, one thing after another, leaves the files of those who live in the
household then in place. -/
def SafeAll : Household Kind → List (Deed Kind) → Prop
  | _, [] => True
  | household, deed :: later => household.Safe deed ∧ (household.perform deed).SafeAll later

namespace Settled

variable {household : Household Kind}

/-- A household stays settled when a module is created. -/
theorem createModule (settled : household.Settled) {registry : Registry} {config : DeviceConfig}
    {module : SourceModule} (safe : household.Safe (.createModule registry module config)) :
    (household.perform (.createModule registry module config)).Settled := by
  refine settled.receive Resident.loaded (fun resident member location spells =>
    leaves_createModule spells (fun backend found => safe backend found resident member) module) ?_
  intro loaded later done
  obtain ⟨compiler, _, made, done⟩ := Action.run_bind_ok done
  obtain ⟨-, rfl⟩ := Action.ofResult_ok made
  obtain ⟨owns, path_eq, present, vacant⟩ := buildModule_ok done
  exact ⟨⟨⟨_, owns, path_eq⟩, present, rfl⟩, _, owns, vacant⟩

/-- A household stays settled when a module is created through a session. -/
theorem createThrough (settled : household.Settled) {place : Nat} {module : SourceModule}
    (safe : household.Safe (.createThrough place module)) :
    (household.perform (.createThrough place module)).Settled := by
  unfold perform
  dsimp only
  split
  · rename_i session guards found
    have asks : household.backend? (.createThrough place module) = some session.backend := by
      rw [backend?, found]
      rfl
    refine settled.receive Resident.loaded (fun resident member location spells =>
      Session.leaves_buildModule spells (safe _ asks resident member) module) ?_
    intro loaded later done
    obtain ⟨owns, path_eq, present, vacant⟩ := buildModule_ok done
    exact ⟨⟨⟨_, owns, path_eq⟩, present, rfl⟩, _, owns, vacant⟩
  · exact settled

/-- A household stays settled when a session is built. -/
theorem buildSession (settled : household.Settled) {setup : SessionSetup Kind}
    {config : DeviceConfig} (safe : household.Safe (.buildSession setup config)) :
    (household.perform (.buildSession setup config)).Settled := by
  refine settled.receive (fun session => .opened session []) (fun resident member location spells =>
    Session.leaves_build spells fun backend found => safe backend found resident member) ?_
  intro session later done
  have opens := Session.opened_of_build done
  obtain ⟨_, _, _, -, -, makes, -⟩ := Session.build_ok done
  obtain ⟨number, directory_eq⟩ := opens.directory
  have runtime_eq := opens.runtime_eq
  rw [directory_eq] at runtime_eq
  refine ⟨⟨⟨number, ?_, runtime_eq⟩, opens.present, opens.notClosed⟩, session.directory, rfl,
    World.vacant_of_makeTemporary (by decide) makes⟩
  exact congrArg some directory_eq

/-- A household stays settled while a session is used. -/
theorem play (settled : household.Settled) {place : Nat} {steps : List Step}
    (safe : household.Safe (.play place steps)) :
    (household.perform (.play place steps)).Settled := by
  unfold perform
  dsimp only
  split
  · rename_i session guards found
    have member := List.mem_of_getElem? found
    have asks : household.backend? (.play place steps) = some session.backend := by
      rw [backend?, found]
      rfl
    have opened := settled.housed _ member
    have notClosed :=
      Stage.invariant_notClosed.playAll ⟨⟨session, household.world⟩, guards, 0⟩ steps
        (fun _ => trivial) opened.notClosed
    have spares {resident : Resident Kind} (isOther : resident ∈ household.residents)
        {location : Location} (spells : resident.file.Spells location) :=
      (Stage.invariant_spares spells session household.world).playAll
        ⟨⟨session, household.world⟩, guards, 0⟩ steps (fun _ => safe _ asks resident isOther)
        (Live.Spares.begin household.world.workshop.toolbox _ session household.world)
    generalize (Stage.playAll ⟨⟨session, household.world⟩, guards, 0⟩ steps).2 = stage
      at notClosed spares ⊢
    have stay (other : Resident Kind) (isOther : other ∈ household.residents) :
        other.Housed stage.live.world.files :=
      settled.housed_of_leaves (fun resident isResident location spells =>
        (spares isResident spells).leaves) isOther
    obtain ⟨location, spells⟩ := opened.spells
    have own := spares member spells
    have kept := stay _ member
    have directory_eq : (Resident.opened stage.live.session stage.guards).directory? =
        (Resident.opened session guards).directory? := congrArg some own.directory_eq
    have file_eq : (Resident.opened stage.live.session stage.guards).file =
        (Resident.opened session guards).file := congrArg ObjectArtifact.path own.runtime_eq
    refine settled.replace found directory_eq ⟨?_, ?_, notClosed⟩ stay
    · rw [directory_eq, file_eq]
      exact kept.place
    · rw [file_eq]
      exact kept.present
  · exact settled

/-- A household stays settled when a resident leaves. -/
theorem leave (settled : household.Settled) (place : Nat) (finale : Finale) :
    (household.perform (.leave place finale)).Settled := by
  unfold perform
  dsimp only
  split
  · rename_i resident found
    have housed := settled.housed resident (List.mem_of_getElem? found)
    obtain ⟨number, owns, -⟩ := housed.place
    have files_eq : (resident.leave finale household.world).files =
        household.world.files.removeAll (FileTree.temporaryPath resident.stem number) :=
      congrArg Workshop.files (resident.workshop_leave owns housed.notClosed finale _)
    refine ⟨fun other member => ?_, (List.nodup_cons.mp (settled.apart_from found)).2⟩
    have stays := settled.housed other (List.mem_of_mem_eraseIdx member)
    rw [files_eq]
    exact stays.stay (stays.spare resident (settled.others_apart found owns member))
  · exact settled

/-- Whatever is done, those who live in the household after it are settled. -/
theorem perform (settled : household.Settled) (deed : Deed Kind) (safe : household.Safe deed) :
    (household.perform deed).Settled := by
  cases deed with
  | createModule registry module config => exact settled.createModule safe
  | buildSession setup config => exact settled.buildSession safe
  | createThrough place module => exact settled.createThrough safe
  | play place steps => exact settled.play safe
  | leave place finale => exact settled.leave place finale

/-- A household stays settled through every safe run of deeds. -/
theorem performAll (settled : household.Settled) (deeds : List (Deed Kind))
    (safe : household.SafeAll deeds) : (household.performAll deeds).Settled := by
  induction deeds generalizing household with
  | nil => exact settled
  | cons deed later ih =>
      obtain ⟨first, others⟩ := safe
      exact ih (settled.perform deed first) others

/-- Backends that leave everything in place leave the files of those in place who live in the
household. -/
theorem safeAll (settled : household.Settled) {deeds : List (Deed Kind)}
    (careful : ∀ deed ∈ deeds, ∀ (moment : Household Kind) backend,
      moment.backend? deed = some backend → ∀ toolbox path location, path.Spells location →
        backend.Keeps toolbox path) : household.SafeAll deeds := by
  induction deeds generalizing household with
  | nil => trivial
  | cons deed later ih =>
      have safe : household.Safe deed := by
        intro backend asks resident member
        obtain ⟨location, spells⟩ := (settled.housed resident member).spells
        exact careful deed List.mem_cons_self household backend asks _ _ location spells
      refine ⟨safe, ih (settled.perform deed safe) fun other member => ?_⟩
      exact careful other (List.mem_cons_of_mem deed member)

/-- A module that is dropped takes its directory with it, and nothing else. -/
theorem drop (settled : household.Settled) {place : Nat} {module : MicroModule}
    (found : household.residents[place]? = some (.loaded module)) (finale : Finale) :
    ∃ directory, module.directory = some directory ∧
      module.artifact.path = directory.join libraryName ∧
      household.world.files.contains module.artifact.path = true ∧
      let later := household.perform (.leave place finale)
      later.residents = household.residents.eraseIdx place ∧
      later.world = household.world.removeAll directory ∧
      later.world.files.contains directory = false ∧
      ∀ other ∈ later.residents, ∃ theirs, other.directory? = some theirs ∧ theirs ≠ directory ∧
        FileTree.SameIn theirs household.world.files later.world.files := by
  have housed := settled.housed _ (List.mem_of_getElem? found)
  obtain ⟨number, owns, path_eq⟩ := housed.place
  have later_eq : household.perform (.leave place finale) =
      ⟨household.world.removeAll (FileTree.temporaryPath "micrort-mod-" number),
        household.residents.eraseIdx place⟩ := by
    have owned : module.directory = some (FileTree.temporaryPath "micrort-mod-" number) := owns
    simp only [Household.perform, found, Resident.leave, MicroModule.release, owned]
  refine ⟨_, owns, path_eq, housed.present, ?_⟩
  rw [later_eq]
  refine ⟨rfl, rfl, ?_, fun other member => ?_⟩
  · exact household.world.files.contains_removeAll (FileTree.spells_temporary (by decide) number)
      (FileTree.temporaryLocation_ne _ _)
  · have stays := settled.housed other (List.mem_of_mem_eraseIdx member)
    have differs := settled.others_apart found owns member
    obtain ⟨theirs, theirs_eq, same⟩ := stays.sameIn (.loaded module) differs
    exact ⟨theirs, theirs_eq, fun equal => differs (equal ▸ theirs_eq), same⟩

end Settled

end Household

/-- Creating a module fails with the fault of the first stage that fails, worded as the stage words
it, and with no directory left behind. Up to there a backend was asked at most once, for an
operator. A module that was created has a directory of its own with its library in it, which is
known by its size and digest. However modules and sessions come and go after that, each has its
directory to itself and its file in place, and a module that is dropped takes its directory with it
and nothing else. -/
theorem createModule_owns_directory {Kind : Type} [Channel Kind] (registry : Registry)
    (module : SourceModule) (config : DeviceConfig) (before : World) :
    (match (createModule registry loadObject module config).run before,
        Creation.firstFault? registry module config before ModuleStage.all with
    | (result, after), some (stage, refusal) =>
        result = .error refusal.error ∧ refusal.error.message = refusal.text ∧
          after.journal = before.journal ++ Creation.asked module config before stage ∧
          if stage ∈ ModuleStage.early then after = before
          else after.files.contains (Creation.workDirectory before) = false
    | (result, after), none =>
        ∃ loaded contents, result = .ok loaded ∧
          loaded.directory = some (Creation.workDirectory before) ∧
          before.files.Vacant (Creation.workDirectory before) ∧
          after.files.read ((Creation.workDirectory before).join "dev_lib.obj") = .ok contents ∧
          loaded.artifact = ⟨(Creation.workDirectory before).join "dev_lib.obj", contents.length,
            Sha256.digest contents⟩ ∧
          after.journal = before.journal ++ Creation.requests module config before) ∧
    ∀ (start : World) (deeds : List (Deed Kind)), (Household.empty start).SafeAll deeds →
      let household := (Household.empty start).performAll deeds
      household.Settled ∧
        ∀ place module finale, household.residents[place]? = some (.loaded module) →
          ∃ directory, module.directory = some directory ∧
            module.artifact.path = directory.join "dev_lib.obj" ∧
            household.world.files.contains module.artifact.path = true ∧
            let later := household.perform (.leave place finale)
            later.residents = household.residents.eraseIdx place ∧
            later.world = household.world.removeAll directory ∧
            later.world.files.contains directory = false ∧
            ∀ other ∈ later.residents, ∃ theirs, other.directory? = some theirs ∧
              theirs ≠ directory ∧
              FileTree.SameIn theirs household.world.files later.world.files := by
  constructor
  · have ends := (Creation.ends_createModule registry module config before).ends
    generalize (createModule registry loadObject module config).run before = created at ends ⊢
    obtain ⟨result, after⟩ := created
    rcases first : Creation.firstFault? registry module config before ModuleStage.all with
      _ | ⟨stage, refusal⟩ <;> rw [first] at ends
    · obtain ⟨loaded, succeeded, made⟩ := ends
      obtain ⟨contents, read, artifact_eq⟩ := made.artifact
      have vacant := Creation.vacant_workDirectory (Creation.passes_of_firstFault first (by decide))
      exact ⟨loaded, contents, succeeded, made.directory_eq, vacant, read, artifact_eq,
        made.journal_eq⟩
    · obtain ⟨failed, journal, left⟩ := ends
      have fails := (Creation.fault_of_firstFault first).2
      exact ⟨failed, Creation.message_of_fault fails, journal, left⟩
  · intro start deeds safe household
    have settled := (Household.Settled.empty start).performAll deeds safe
    exact ⟨settled, fun place module finale found => settled.drop found finale⟩

namespace Simulation

/-- A registry with the scripted device, whose operators are objects of headers alone. -/
def sharedRegistry : Registry where
  backends := [backend "mock" fun
    | .runtime => .writes (some [])
    | .operator => .writes (some (codeImage []))]

/-- Two modules are created, with a session between them. -/
def sharedDeeds : List (Deed ScriptedChannel) :=
  [.createModule sharedRegistry ⟨"relu", "void relu(void);"⟩ benchConfig,
    .buildSession ⟨sharedRegistry, .current, openScripted none fun _ => []⟩ benchConfig,
    .createModule sharedRegistry ⟨"add", "int add(int, int);"⟩ benchConfig]

/-- The backends of the shared registry leave every path that spells a location in place. -/
theorem careful_sharedRegistry {deviceId : String} {backend : DeviceBackend}
    (found : sharedRegistry.find? deviceId = some backend) (toolbox : Toolbox) {path : Path}
    {location : Location} (spells : path.Spells location) : backend.Keeps toolbox path := by
  have member := List.mem_of_find?_eq_some found
  rw [List.mem_singleton.mp member]
  exact keeps_backend _ _ spells

/-- The shared deeds are safe, whoever leaves afterwards. -/
theorem careful_sharedDeeds (later : List (Deed ScriptedChannel))
    (leaves : ∀ deed ∈ later, ∃ place finale, deed = .leave place finale) :
    (Household.empty benchWorld).SafeAll (sharedDeeds ++ later) := by
  refine (Household.Settled.empty benchWorld).safeAll fun deed member moment backend asks => ?_
  intro toolbox path location spells
  rcases List.mem_append.mp member with shared | isLater
  · simp only [sharedDeeds, List.mem_cons, List.not_mem_nil, or_false] at shared
    rcases shared with rfl | rfl | rfl <;> exact careful_sharedRegistry asks toolbox spells
  · obtain ⟨place, finale, rfl⟩ := leaves deed isLater
    cases asks

end Simulation

/-- A module is created and described by its library. When the first of two such modules is dropped,
the second one and the session between them stay. -/
theorem createModule_beside_others :
    (∃ loaded contents after,
      (createModule Simulation.sharedRegistry loadObject ⟨"relu", "void relu(void);"⟩
          Simulation.benchConfig).run Simulation.benchWorld = (.ok loaded, after) ∧
        after.files.read loaded.artifact.path = .ok contents ∧
        loaded.artifact.size = contents.length ∧
        loaded.artifact.digest = Sha256.digest contents) ∧
    ∃ first session guards second,
      let household := (Household.empty Simulation.benchWorld).performAll Simulation.sharedDeeds
      household.residents = [.loaded first, .opened session guards, .loaded second] ∧
        let later := household.perform (.leave 0 .drop)
        (∃ directory, first.directory = some directory ∧
          household.world.files.contains first.artifact.path = true ∧
          later.world.files.contains directory = false) ∧
        later.world.files.contains session.runtime.path = true ∧
        later.world.files.contains second.artifact.path = true := by
  have kinds : ((Household.empty Simulation.benchWorld).performAll
      Simulation.sharedDeeds).residents.map Resident.stem =
        ["micrort-mod-", "micrort-session-", "micrort-mod-"] := by decide +kernel
  have none : Creation.firstFault? Simulation.sharedRegistry ⟨"relu", "void relu(void);"⟩
      Simulation.benchConfig Simulation.benchWorld ModuleStage.all = none := by decide +kernel
  obtain ⟨creates, whole⟩ := @createModule_owns_directory Simulation.ScriptedChannel _
    Simulation.sharedRegistry ⟨"relu", "void relu(void);"⟩ Simulation.benchConfig
    Simulation.benchWorld
  rw [none] at creates
  obtain ⟨loaded, contents, succeeded, -, -, read, described, -⟩ := creates
  refine ⟨⟨loaded, contents, _, Prod.ext succeeded rfl, ?_, ?_, ?_⟩, ?_⟩
  · rw [described]
    exact read
  · rw [described]
  · rw [described]
  have whole := whole Simulation.benchWorld
  obtain ⟨-, drops⟩ := whole Simulation.sharedDeeds (by
    simpa using Simulation.careful_sharedDeeds [] (List.forall_mem_nil _))
  obtain ⟨settled, -⟩ := whole (Simulation.sharedDeeds ++ [.leave 0 .drop])
    (Simulation.careful_sharedDeeds _ fun deed member => ⟨0, .drop, List.mem_singleton.mp member⟩)
  rw [Household.performAll_append, Household.performAll_singleton] at settled
  generalize (Household.empty Simulation.benchWorld).performAll Simulation.sharedDeeds =
    household at kinds drops settled
  obtain ⟨first, _, residents_eq, isFirst, kinds⟩ := List.map_eq_cons_iff.mp kinds
  obtain ⟨middle, _, rfl, isMiddle, kinds⟩ := List.map_eq_cons_iff.mp kinds
  obtain ⟨second, _, rfl, isSecond, kinds⟩ := List.map_eq_cons_iff.mp kinds
  obtain rfl := List.map_eq_nil_iff.mp kinds
  obtain ⟨first, rfl⟩ := Resident.loaded_of_stem isFirst
  obtain ⟨session, guards, rfl⟩ := Resident.opened_of_stem isMiddle
  obtain ⟨second, rfl⟩ := Resident.loaded_of_stem isSecond
  obtain ⟨directory, owns, -, present, left, -, gone, -⟩ := drops 0 first .drop (by
    rw [residents_eq]
    rfl)
  rw [residents_eq] at left
  have others := left ▸ settled.housed
  refine ⟨first, session, guards, second, residents_eq, ⟨directory, owns, present, gone⟩, ?_, ?_⟩
  · exact (others (.opened session guards) (by simp)).present
  · exact (others (.loaded second) (by simp)).present

end MicroDevice
