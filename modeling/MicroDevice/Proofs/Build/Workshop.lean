import MicroDevice.Proofs.Action.Moves
import MicroDevice.World

/-! # Actions in a workshop

What the actions in a workshop come to: changes of its files that succeed or leave all as it was
(`Workshop.run_alter`), and calls of its tools. A preorder along which the files change holds from
before an action to after it, whatever comes of the action (`Workshop.moves_alter`,
`Workshop.moves_callTool`).
-/

namespace MicroDevice

namespace Workshop

variable {stem : String} {path : Path} {contents : Bytes}

/-! ## Runs -/

theorem run_look {Answer : Type} (view : FileTree → Except IoFault Answer) (workshop : Workshop) :
    (look view).run workshop = ((view workshop.files).mapError .io, workshop) := rfl

/-- Altering files replaces them, unless the change fails. -/
theorem run_alter (change : FileTree → Except IoFault FileTree) (workshop : Workshop) :
    (alter change).run workshop =
      match change workshop.files with
      | .ok files => (.ok (), { workshop with files })
      | .error fault => (.error fault, workshop) := rfl

/-- As a part of a build, a change of the files fails with an error of the build. -/
theorem run_alter_io (change : FileTree → Except IoFault FileTree) (workshop : Workshop) :
    ((alter change).widen BuildError.io).run workshop =
      match change workshop.files with
      | .ok files => (.ok (), { workshop with files })
      | .error fault => (.error (.io fault), workshop) := by
  rw [Action.run_widen, run_alter]
  rcases change workshop.files with fault | files <;> rfl

/-- Writing a file writes it in the files and changes nothing else. -/
theorem run_write (path : Path) (contents : Bytes) (workshop : Workshop) :
    (write path contents).run workshop =
      match workshop.files.write path contents with
      | .ok files => (.ok (), { workshop with files })
      | .error fault => (.error (.io fault), workshop) :=
  run_alter_io _ workshop

/-- A file that was written is in the files, and nothing else has changed. -/
theorem write_ok {before after : Workshop}
    (done : (write path contents).run before = (.ok (), after)) :
    ∃ files, before.files.write path contents = .ok files ∧ after = { before with files } := by
  rw [run_write] at done
  rcases writes : before.files.write path contents with fault | files <;> rw [writes] at done <;>
    cases done
  exact ⟨files, rfl, rfl⟩

/-- Making directories makes them in the files and changes nothing else. -/
theorem run_makeDirectories (path : Path) (workshop : Workshop) :
    (makeDirectories path).run workshop =
      match workshop.files.makeDirectories path with
      | .ok files => (.ok (), { workshop with files })
      | .error fault => (.error (.io fault), workshop) :=
  run_alter_io _ workshop

/-- Making a temporary directory makes it in the files and answers its path. -/
theorem run_makeTemporary (stem : String) (workshop : Workshop) :
    (makeTemporary stem).run workshop =
      match workshop.files.makeTemporary stem with
      | .ok (path, files) => (.ok path, { workshop with files })
      | .error fault => (.error fault, workshop) := rfl

theorem run_makeTemporary_of_error (workshop : Workshop) {fault : IoFault}
    (fails : workshop.files.makeTemporary stem = .error fault) :
    (makeTemporary stem).run workshop = (.error fault, workshop) := by
  rw [run_makeTemporary, fails]

theorem run_makeTemporary_of_ok (workshop : Workshop) {files : FileTree}
    (makes : workshop.files.makeTemporary stem = .ok (path, files)) :
    (makeTemporary stem).run workshop = (.ok path, { workshop with files }) := by
  rw [run_makeTemporary, makes]

/-- A temporary directory that was made is in the files, and nothing else has changed. -/
theorem makeTemporary_ok {before after : Workshop}
    (done : (makeTemporary stem).run before = (.ok path, after)) :
    ∃ files, before.files.makeTemporary stem = .ok (path, files) ∧
      after = { before with files } := by
  rcases makes : before.files.makeTemporary stem with fault | ⟨directory, files⟩
  · cases (run_makeTemporary_of_error before makes).symm.trans done
  · cases (run_makeTemporary_of_ok before makes).symm.trans done
    exact ⟨files, rfl, rfl⟩

/-- Work in a temporary directory is done there, and the directory is removed in any case. -/
theorem run_inTemporary {Answer : Type} (work : Path → Action Workshop BuildError Answer)
    (workshop : Workshop) :
    (inTemporary stem work).run workshop =
      match workshop.files.makeTemporary stem with
      | .error fault => (.error (.io fault), workshop)
      | .ok (directory, files) =>
          (((work directory).run { workshop with files }).1,
            ((work directory).run { workshop with files }).2.removeAll directory) := by
  rw [inTemporary, Action.run_bind, Action.run_widen, run_makeTemporary]
  rcases workshop.files.makeTemporary stem with fault | ⟨directory, files⟩ <;> rfl

/-! ## Workshops before and after -/

section Preorder

variable {along : Workshop → Workshop → Prop} [IsPreorder Workshop along]

theorem moves_look {Answer : Type} (view : FileTree → Except IoFault Answer) :
    (look view).Moves along :=
  fun workshop => refl_of along workshop

/-- A change of the files that fails leaves the workshop as it was. -/
theorem moves_alter {change : FileTree → Except IoFault FileTree}
    (changes : ∀ workshop files, change workshop.files = .ok files →
      along workshop { workshop with files }) : (alter change).Moves along := by
  intro workshop
  rw [run_alter]
  rcases changed : change workshop.files with fault | files
  · exact refl_of along workshop
  · exact changes workshop files changed

/-- Making a temporary directory that fails leaves the workshop as it was. -/
theorem moves_makeTemporary
    (makes : ∀ workshop path files, workshop.files.makeTemporary stem = .ok (path, files) →
      along workshop { workshop with files }) : (makeTemporary stem).Moves along := by
  intro workshop
  rw [run_makeTemporary]
  rcases made : workshop.files.makeTemporary stem with fault | ⟨path, files⟩
  · exact refl_of along workshop
  · exact makes workshop path files made

/-- A call leaves the files that the tool leaves, whether the tool ran or could not be started. A
call that cannot be passed on leaves the workshop as it was. -/
theorem moves_callTool {tool : String} {arguments : List String}
    (works : ∀ workshop calls, along workshop { workshop with
      files := (workshop.toolbox workshop.calls ⟨tool, arguments⟩ workshop.files).2, calls }) :
    (callTool tool arguments).Moves along := by
  intro workshop
  have worked := works workshop
  unfold callTool Action.run
  dsimp only
  split
  · rcases called : workshop.toolbox workshop.calls ⟨tool, arguments⟩ workshop.files with
      ⟨_ | _, files⟩ <;> rw [called] at worked
    · exact worked workshop.calls
    · dsimp only
      split <;> exact worked _
  · exact refl_of along workshop

end Preorder

end Workshop

/-! ## The workshop of a world -/

namespace World

variable {world : World} {path : Path} {contents : Bytes}

/-- Work in the workshop of a world leaves the rest of the world alone. -/
theorem run_inWorkshop {Error Answer : Type} (action : Action Workshop Error Answer)
    (world : World) :
    (inWorkshop action).run world =
      ((action.run world.workshop).1,
        { world with workshop := (action.run world.workshop).2 }) := rfl

theorem journal_run_inWorkshop {Error Answer : Type} (action : Action Workshop Error Answer)
    (world : World) : ((inWorkshop action).run world).2.journal = world.journal := rfl

/-- An action in the workshop succeeds when the action does, and only changes the workshop. -/
theorem run_inWorkshop_ok {Error Answer : Type} {action : Action Workshop Error Answer}
    {before after : World} {answer : Answer}
    (done : (inWorkshop action).run before = (.ok answer, after)) :
    action.run before.workshop = (.ok answer, after.workshop) ∧
      after = { before with workshop := after.workshop } := by
  obtain ⟨workshop, succeeds, rfl⟩ := Action.run_onPart_ok done
  exact ⟨succeeds, rfl⟩

theorem inWorkshop_widen {Error Wider Answer : Type} (action : Action Workshop Error Answer)
    (wider : Error → Wider) : inWorkshop (action.widen wider) = (inWorkshop action).widen wider :=
  rfl

/-- Putting a file in a world writes it to the files of the world, or fails and leaves the world as
it was. -/
theorem run_put (world : World) (path : Path) (contents : Bytes) :
    (inWorkshop (Workshop.put path contents)).run world =
      match world.files.write path contents with
      | .ok files => (.ok (), { world with workshop := { world.workshop with files } })
      | .error fault => (.error fault, world) := by
  rw [run_inWorkshop, Workshop.put, Workshop.run_alter, files]
  rcases world.workshop.files.write path contents with fault | files <;> rfl

/-- A file that cannot be written leaves the world as it was. -/
theorem run_put_of_error {fault : IoFault}
    (fails : world.files.write path contents = .error fault) :
    (inWorkshop (Workshop.put path contents)).run world = (.error fault, world) := by
  rw [run_put, fails]

/-- Writing a file in a world changes the files of the world. -/
theorem run_put_eq {files : FileTree} (writes : world.files.write path contents = .ok files) :
    (inWorkshop (Workshop.put path contents)).run world =
      (.ok (), { world with workshop := { world.workshop with files } }) := by
  rw [run_put, writes]

end World

end MicroDevice
