import MicroDevice.Proofs.Build.Leaving
import MicroDevice.Proofs.Files.Beside

/-! # What builds make

A build of a runtime writes nothing outside of the directories it was given
(`Workshop.Spares`), so what is new beside them is made by a tool (`Workshop.OnlyToolsMake`). Its
scratch directory is gone in the end (`Workshop.contains_of_inTemporary`).
-/

namespace MicroDevice

/-- Some call of a tool makes something at a location that held nothing. -/
def Toolbox.Makes (toolbox : Toolbox) (location : Location) : Prop :=
  ∃ earlier call files, files.entry? location = none ∧
    FileTree.entry? (toolbox earlier call files).2 location ≠ none

namespace FileTree

/-- None of two locations is above the other. -/
def Apart (location place : Location) : Prop :=
  ¬ location <+: place ∧ ¬ place <+: location

variable {location place : Location}

theorem Apart.ne (apart : Apart location place) : location ≠ place := by
  rintro rfl
  exact apart.1 (List.prefix_refl location)

/-- What is apart from a place is apart from all below it. -/
theorem Apart.append (apart : Apart location place) (names : Location) :
    Apart location (place ++ names) := by
  have begins := List.prefix_append place names
  refine ⟨fun above => ?_, fun below => apart.2 (begins.trans below)⟩
  rcases List.prefix_or_prefix_of_prefix above begins with onTheWay | inside
  · exact apart.1 onTheWay
  · exact apart.2 inside

/-- Different names in the directory for temporary files are apart. -/
theorem apart_of_ne {name : List Char} {stem : String} {number : Nat}
    (differs : temporaryRoot ++ [name] ≠ temporaryLocation stem number) :
    Apart (temporaryRoot ++ [name]) (temporaryLocation stem number) :=
  ⟨fun above => differs (above.eq_of_length rfl),
    fun below => differs (below.eq_of_length rfl).symm⟩

end FileTree

namespace Workshop

/-- The tools are the same, and so is what a location holds. -/
structure Spares (location : Location) (before after : Workshop) : Prop where
  toolbox_eq : after.toolbox = before.toolbox
  entry_eq : after.files.entry? location = before.files.entry? location

instance (location : Location) : IsPreorder Workshop (Spares location) where
  refl _ := ⟨rfl, rfl⟩
  trans _ _ _ first second :=
    ⟨second.toolbox_eq.trans first.toolbox_eq, second.entry_eq.trans first.entry_eq⟩

/-- As long as the tools are the given ones, a location that holds something held something
before, or else a tool makes something there. -/
def OnlyToolsMake (toolbox : Toolbox) (location : Location) (before after : Workshop) : Prop :=
  before.toolbox = toolbox →
    after.toolbox = toolbox ∧
      (after.files.entry? location ≠ none →
        before.files.entry? location ≠ none ∨ toolbox.Makes location)

instance (toolbox : Toolbox) (location : Location) :
    IsPreorder Workshop (OnlyToolsMake toolbox location) where
  refl _ same := ⟨same, Or.inl⟩
  trans _ _ _ first second same :=
    ⟨(second (first same).1).1, fun held =>
      ((second (first same).1).2 held).elim (first same).2 Or.inr⟩

variable {toolbox : Toolbox} {location place : Location} {path : Path}

/-- Where a location is spared, no one makes anything there. -/
theorem Spares.onlyToolsMake {before after : Workshop} (spares : Spares location before after)
    (toolbox : Toolbox) : OnlyToolsMake toolbox location before after :=
  fun same => ⟨spares.toolbox_eq.trans same, fun held => .inl (spares.entry_eq ▸ held)⟩

/-- Writing a file spares all other locations. -/
theorem spares_write (spells : path.Spells place) (beside : location ≠ place)
    (contents : Bytes) : (write path contents).Moves (Spares location) :=
  Action.Moves.widen
    (moves_alter fun _ _ writes => ⟨rfl, FileTree.entry_write spells beside writes⟩) BuildError.io

/-- Making directories spares the locations apart from them. -/
theorem spares_makeDirectories (spells : path.Spells place) (named : place ≠ [])
    (apart : FileTree.Apart location place) :
    (makeDirectories path).Moves (Spares location) :=
  Action.Moves.widen (moves_alter fun _ _ makes =>
    ⟨rfl, FileTree.entry_makeDirectories spells named apart.1 makes⟩) BuildError.io

/-- What a call of a tool makes is made by a tool. -/
theorem onlyToolsMake_callTool (toolbox : Toolbox) (location : Location) (tool : String)
    (arguments : List String) :
    (callTool tool arguments).Moves (OnlyToolsMake toolbox location) := by
  refine moves_callTool fun workshop calls same => ⟨same, fun held => ?_⟩
  by_cases vacant : workshop.files.entry? location = none
  · exact .inr ⟨_, _, _, vacant, same ▸ held⟩
  · exact .inl vacant

/-- After work in a scratch directory, what is new in the directory for temporary files was
made by a tool, and it is not the scratch directory. -/
theorem contains_of_inTemporary {name : List Char}
    (spells : path.Spells (FileTree.temporaryRoot ++ [name])) {stem : String}
    (noSlash : '/' ∉ stem.toList) {Answer : Type}
    {work : Path → Action Workshop BuildError Answer}
    (works : ∀ number, FileTree.Apart (FileTree.temporaryRoot ++ [name])
      (FileTree.temporaryLocation stem number) →
        (work (FileTree.temporaryPath stem number)).Moves
          (OnlyToolsMake toolbox (FileTree.temporaryRoot ++ [name])))
    {workshop : Workshop} (same : workshop.toolbox = toolbox)
    (present : ((inTemporary stem work).run workshop).2.files.contains path = true) :
    workshop.files.entry? (FileTree.temporaryRoot ++ [name]) ≠ none ∨
      path ≠ FileTree.temporaryPath stem workshop.files.temporaries ∧
        toolbox.Makes (FileTree.temporaryRoot ++ [name]) := by
  rw [run_inTemporary] at present
  rcases makes : workshop.files.makeTemporary stem with fault | ⟨scratch, files⟩ <;>
    rw [makes] at present
  · exact .inl (FileTree.entry_of_contains spells present)
  · obtain ⟨rfl, -, made⟩ := FileTree.makeTemporary_ok noSlash makes
    have spelled := FileTree.spells_temporary noSlash workshop.files.temporaries
    have worked := works workshop.files.temporaries
    dsimp only at present
    -- what the work leaves is known by the relation alone
    generalize moved : (work (FileTree.temporaryPath stem workshop.files.temporaries)).run
      { workshop with files } = outcome at present
    have still := FileTree.contains_of_removeAll spells present
    by_cases own : FileTree.temporaryRoot ++ [name] =
        FileTree.temporaryLocation stem workshop.files.temporaries
    · have isScratch : path = FileTree.temporaryPath stem workshop.files.temporaries :=
        (own ▸ spells).eq_of_spells spelled (FileTree.temporaryLocation_ne _ _)
      have gone := outcome.2.files.contains_removeAll spelled (FileTree.temporaryLocation_ne _ _)
      rw [isScratch] at present
      exact absurd (gone.symm.trans present) (by decide)
    · have left := worked (FileTree.apart_of_ne own) { workshop with files } same
      rw [moved] at left
      refine (left.2 (FileTree.entry_of_contains spells still)).imp (fun before => ?_) fun tool =>
        ⟨fun isScratch => ?_, tool⟩
      · rw [made, FileTree.entry_put_of_ne _ own] at before
        exact before
      · have parts := (isScratch ▸ spelled.parts_eq).symm.trans spells.parts_eq
        exact own (List.cons.inj parts).2.symm

end Workshop

namespace Sources

variable {location place : Location} {directory : Path}

/-- A name that a file in a directory may have. -/
def IsFileName (name : String) : Prop :=
  '/' ∉ name.toList ∧ Path.isTrivial name.toList = false ∧ name.toList ≠ Path.upward

instance : DecidablePred IsFileName := fun name => by
  unfold IsFileName
  infer_instance

theorem isFileName_header {name : String}
    (isHeader : name ∈ [runtimeHeaderName, redirectHeaderName]) : IsFileName name := by
  simp only [List.mem_cons, List.not_mem_nil, or_false] at isHeader
  rcases isHeader with rfl | rfl <;> decide

/-- Writing into a directory spares the locations apart from it. -/
theorem spares_writeIn (spells : directory.Spells place) (named : place ≠ [])
    (apart : FileTree.Apart location place) {name : String} (isName : IsFileName name)
    (contents : Bytes) :
    (Workshop.write (directory.join name) contents).Moves (Workshop.Spares location) :=
  Workshop.spares_write (spells.join named isName.1 isName.2) (apart.append [name.toList]).ne
    contents

/-- Writing the runtime source into a directory spares the locations apart from it. -/
theorem spares_writeRuntime (spells : directory.Spells place) (named : place ≠ [])
    (apart : FileTree.Apart location place) :
    (writeRuntime directory).Moves (Workshop.Spares location) :=
  (spares_writeIn spells named apart (by decide) _).bind fun _ => Action.moves_pure _

end Sources

namespace ToolchainFamily

variable {toolbox : Toolbox} {family : ToolchainFamily} {host : Host} {job : CompileJob}

/-- The sources of the built-in families have plain file names. -/
theorem isFileName_of_builtins :
    ∀ family ∈ builtins, ∀ source ∈ family.sources, Sources.IsFileName source.1 := by
  decide

/-- The work of compiling a runtime makes nothing outside of its scratch directory but what
tools make. -/
theorem onlyToolsMake_compileIn (areNames : ∀ source ∈ family.sources, Sources.IsFileName source.1)
    (isRuntime : job.libType = .runtime) {scratch : Path} {location place : Location}
    (spells : scratch.Spells place) (named : place ≠ []) (apart : FileTree.Apart location place) :
    (family.compileIn host job scratch).Moves (Workshop.OnlyToolsMake toolbox location) := by
  have inside {name : String} (isName : Sources.IsFileName name) :
      (scratch.join name).Spells (place ++ [name.toList]) := spells.join named isName.1 isName.2
  have below (name : String) : place ++ [name.toList] ≠ [] := by simp
  have parts : family.HoldsInStaging job scratch
      fun _ action => action.Moves (Workshop.OnlyToolsMake toolbox location) := {
    composes := Workshop.composes_moves _
    looks := Workshop.moves_look
    makes := by
      intro _ made
      refine Action.Moves.weaken ?_ fun _ _ spares => Workshop.Spares.onlyToolsMake spares toolbox
      cases made with
      | headers | support =>
          exact Workshop.spares_makeDirectories (inside (by decide)) (below _) (apart.append _)
    writes := by
      intro _ contents written
      refine Action.Moves.weaken ?_ fun _ _ spares => Workshop.Spares.onlyToolsMake spares toolbox
      cases written with
      | header isHeader =>
          exact Sources.spares_writeIn (inside (by decide)) (below _) (apart.append _)
            (Sources.isFileName_header isHeader) contents
      | support _ member =>
          exact Sources.spares_writeIn (inside (by decide)) (below _) (apart.append _)
            (areNames _ member) contents
      | copy isOperator => cases isRuntime.symm.trans isOperator }
  exact parts.compileIn host (Workshop.onlyToolsMake_callTool toolbox location)

/-- A compilation stops at its checks or works in a scratch directory. -/
theorem run_compile_cases (family : ToolchainFamily) (host : Host) (job : CompileJob)
    (workshop : Workshop) :
    (∃ error, (family.compile host job).run workshop = (.error error, workshop)) ∨
      (family.compile host job).run workshop =
        (Workshop.inTemporary ".tmp" (family.compileIn host job)).run workshop := by
  unfold compile
  rw [Action.run_bind, Action.run_ofResult]
  rcases family.checkWordSize job.options.wordSize with refused | _
  · exact .inl ⟨refused, rfl⟩
  · dsimp only
    rw [Action.run_bind, Action.run_ofResult]
    rcases family.checkLayout job.options.layout with refused | _
    · exact .inl ⟨refused, rfl⟩
    · exact .inr rfl

/-- When a runtime was compiled, what is new in the directory for temporary files was made by a
tool, and it is not the scratch directory. -/
theorem contains_of_compile (areNames : ∀ source ∈ family.sources, Sources.IsFileName source.1)
    (isRuntime : job.libType = .runtime) {path : Path} {name : List Char}
    (spells : path.Spells (FileTree.temporaryRoot ++ [name])) {workshop : Workshop}
    (present : ((family.compile host job).run workshop).2.files.contains path = true) :
    workshop.files.entry? (FileTree.temporaryRoot ++ [name]) ≠ none ∨
      path ≠ FileTree.temporaryPath ".tmp" workshop.files.temporaries ∧
        workshop.toolbox.Makes (FileTree.temporaryRoot ++ [name]) := by
  rcases family.run_compile_cases host job workshop with ⟨error, ran⟩ | ran <;>
    rw [ran] at present
  · exact .inl (FileTree.entry_of_contains spells present)
  · refine Workshop.contains_of_inTemporary spells (by decide) (fun number apart => ?_) rfl present
    exact onlyToolsMake_compileIn areNames isRuntime
      (FileTree.spells_temporary (by decide) number) (FileTree.temporaryLocation_ne _ _) apart

end ToolchainFamily

end MicroDevice
