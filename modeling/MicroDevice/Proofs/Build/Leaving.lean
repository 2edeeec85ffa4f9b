import MicroDevice.Proofs.Build.Parts
import MicroDevice.Proofs.Files.Presence

/-! # What builds leave in place

The work of a build only adds to the file tree (`Workshop.Grows`), save that tools may do
anything and scratch directories are removed. So a toolchain leaves in place what a path denotes
if its tools do (`ToolchainFamily.keeps_backend`): a scratch directory is new, and nothing that
was there before is below it.
-/

namespace MicroDevice

/-- Whatever they are called for, tools leave in place what a path denotes. -/
def Toolbox.Keeps (toolbox : Toolbox) (path : Path) : Prop :=
  ∀ earlier call files, files.contains path = true →
    (toolbox earlier call files).2.contains path = true

namespace Workshop

/-- The file tree holds all that it held, and the tools are the same. -/
structure Grows (before after : Workshop) : Prop where
  toolbox_eq : after.toolbox = before.toolbox
  holds : ∀ location, before.files.Holds location → after.files.Holds location

instance : IsPreorder Workshop Grows where
  refl _ := ⟨rfl, fun _ held => held⟩
  trans _ _ _ first second :=
    ⟨second.toolbox_eq.trans first.toolbox_eq,
      fun location held => second.holds location (first.holds location held)⟩

/-- What a path denotes is left in place as long as the tools are the given ones. -/
def Leaves (toolbox : Toolbox) (path : Path) (before after : Workshop) : Prop :=
  before.toolbox = toolbox →
    after.toolbox = toolbox ∧
      (before.files.contains path = true → after.files.contains path = true)

instance (toolbox : Toolbox) (path : Path) : IsPreorder Workshop (Leaves toolbox path) where
  refl _ same := ⟨same, fun present => present⟩
  trans _ _ _ first second same :=
    ⟨(second (first same).1).1,
      fun present => (second (first same).1).2 ((first same).2 present)⟩

variable {toolbox : Toolbox} {path : Path} {location : Location}

/-- A file tree that only grows leaves every path in place. -/
theorem Grows.leaves {before after : Workshop} (grows : Grows before after)
    (toolbox : Toolbox) (spells : path.Spells location) : Leaves toolbox path before after := by
  intro same
  refine ⟨grows.toolbox_eq.trans same, fun present => ?_⟩
  obtain ⟨allowed, held⟩ := (FileTree.contains_iff_holds _ spells).mp present
  exact (FileTree.contains_iff_holds _ spells).mpr ⟨allowed, grows.holds location held⟩

theorem moves_put (path : Path) (contents : Bytes) : (put path contents).Moves Grows :=
  moves_alter fun _ _ writes => ⟨rfl, fun _ held => held.write writes⟩

theorem moves_write (path : Path) (contents : Bytes) : (write path contents).Moves Grows :=
  (moves_put path contents).widen BuildError.io

/-- Making directories lets the tree grow. -/
theorem moves_makeDirectories (path : Path) : (makeDirectories path).Moves Grows :=
  Action.Moves.widen
    (moves_alter fun _ _ makes => ⟨rfl, fun _ held => held.makeDirectoriesWithin makes⟩)
    BuildError.io

/-- Making a temporary directory lets the tree grow. -/
theorem grows_makeTemporary {stem : String} (noSlash : '/' ∉ stem.toList) :
    (makeTemporary stem).Moves Grows := by
  refine moves_makeTemporary fun workshop directory files makes => ?_
  obtain ⟨-, -, rfl⟩ := FileTree.makeTemporary_ok noSlash makes
  refine ⟨rfl, fun location held => ?_⟩
  have counted : FileTree.Holds { workshop.files with
      temporaries := workshop.files.temporaries + 1 } location := ⟨held.above, held.present⟩
  exact counted.put fun _ => rfl

/-- A call of a tool leaves in place what the tools leave in place. -/
theorem leaves_callTool (keeps : toolbox.Keeps path) (tool : String) (arguments : List String) :
    (callTool tool arguments).Moves (Leaves toolbox path) := by
  refine moves_callTool fun workshop calls same => ⟨same, ?_⟩
  have kept := keeps workshop.calls ⟨tool, arguments⟩ workshop.files
  rwa [← same] at kept

/-- Work in a scratch directory leaves in place what it leaves in place otherwise, since the
directory is new. -/
theorem moves_inTemporary (spells : path.Spells location) {stem : String}
    (noSlash : '/' ∉ stem.toList) {Answer : Type}
    {work : Path → Action Workshop BuildError Answer}
    (works : ∀ directory, (work directory).Moves (Leaves toolbox path)) :
    (inTemporary stem work).Moves (Leaves toolbox path) := by
  intro workshop same
  have begins := (grows_makeTemporary noSlash workshop).leaves toolbox spells same
  rw [inTemporary, Action.run_bind, Action.run_widen]
  rcases makes : (makeTemporary stem).run workshop with ⟨fault | directory, housed⟩ <;>
    rw [makes] at begins
  · exact begins
  · have worked := works directory housed begins.1
    refine ⟨worked.1, fun present => ?_⟩
    obtain ⟨_, made, -⟩ := makeTemporary_ok makes
    exact (FileTree.vacant_of_makeTemporary noSlash made).contains_removeAll spells present
      (worked.2 (begins.2 present))

end Workshop

/-- Whatever the backend compiles, it leaves in place what a path denotes, as long as the tools
are the given ones. -/
def DeviceBackend.Keeps (backend : DeviceBackend) (toolbox : Toolbox) (path : Path) : Prop :=
  ∀ job, (backend.compile job).Moves (Workshop.Leaves toolbox path)

namespace ToolchainFamily

variable {toolbox : Toolbox} {path : Path} {location : Location}

/-- The backend of a toolchain leaves in place what its tools leave in place. -/
theorem keeps_backend (family : ToolchainFamily) (host : Host) (spells : path.Spells location)
    (tools : toolbox.Keeps path) : (family.backend host).Keeps toolbox path := by
  intro job
  refine (Action.moves_ofResult _).bind fun _ => ?_
  refine (Action.moves_ofResult _).bind fun _ => ?_
  refine Workshop.moves_inTemporary spells (by decide) fun scratch => ?_
  have parts : family.HoldsInStaging job scratch
      fun _ action => action.Moves (Workshop.Leaves toolbox path) := {
    composes := Workshop.composes_moves _
    looks := Workshop.moves_look
    makes directory _ := (Workshop.moves_makeDirectories directory).weaken
      fun _ _ grows => grows.leaves toolbox spells
    writes file contents _ := (Workshop.moves_write file contents).weaken
      fun _ _ grows => grows.leaves toolbox spells }
  exact parts.compileIn host (Workshop.leaves_callTool tools)

end ToolchainFamily

end MicroDevice
