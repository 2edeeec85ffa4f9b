import MicroDevice.Session.Module

/-! # Loading modules

A file is loaded as a module unless it cannot be read or is not an object (`loadFault?`). The
module is known by the contents of the file (`loadObject_of_no_fault`).
-/

namespace MicroDevice

/-- Why a file is not loaded as a module, if it is not. -/
def loadFault? (files : FileTree) (path : Path) : Option LoadFault :=
  match files.read path with
  | .error fault => some (.unreadable fault)
  | .ok contents =>
      match inspectObject contents with
      | .error fault => some fault
      | .ok _ => none

variable {files : FileTree} {path : Path} {contents : Bytes}

/-- A file that can be read and inspected is loaded with what the inspection found. -/
theorem loadObject_eq_ok {format : String} {symbols : List String}
    (held : files.read path = .ok contents)
    (inspected : inspectObject contents = .ok (format, symbols)) :
    loadObject files path = .ok ⟨path.fileStem?.getD "", .ofBytes path contents, format, symbols,
      none⟩ := by
  have read : (files.read path).mapError
      (fun fault => SessionError.load path (.unreadable fault)) = .ok contents := by
    rw [held]
    rfl
  have found : (inspectObject contents).mapError (SessionError.load path) =
      .ok (format, symbols) := by
    rw [inspected]
    rfl
  rw [loadObject, read]
  change ((inspectObject contents).mapError (SessionError.load path)).bind _ = _
  rw [found]
  rfl

/-- A fault in loading is the error of the loader, with the path. -/
theorem loadObject_of_fault {fault : LoadFault} (fails : loadFault? files path = some fault) :
    loadObject files path = .error (.load path fault) := by
  unfold loadFault? at fails
  unfold loadObject
  rcases held : files.read path with unread | contents
  · rw [held] at fails
    cases fails
    rfl
  · simp only [held] at fails
    rcases inspected : inspectObject contents with refused | format
    · rw [inspected] at fails
      cases fails
      change ((inspectObject contents).mapError (SessionError.load path)).bind _ = _
      rw [inspected]
      rfl
    · rw [inspected] at fails
      cases fails

/-- A file without a fault is loaded, and its artifact describes the contents read. -/
theorem loadObject_of_no_fault (passes : loadFault? files path = none) :
    ∃ loaded contents, loadObject files path = .ok loaded ∧ files.read path = .ok contents ∧
      loaded.artifact = .ofBytes path contents := by
  unfold loadFault? at passes
  rcases held : files.read path with unread | contents
  · rw [held] at passes
    cases passes
  · simp only [held] at passes
    rcases inspected : inspectObject contents with refused | ⟨format, symbols⟩
    · rw [inspected] at passes
      cases passes
    · exact ⟨_, contents, loadObject_eq_ok held inspected, rfl, rfl⟩

/-- A module that was loaded is known by the contents of its file. -/
theorem loadObject_ok {loaded : MicroModule} (done : loadObject files path = .ok loaded) :
    ∃ contents, files.read path = .ok contents ∧ loaded.artifact = .ofBytes path contents := by
  rcases loads : loadFault? files path with _ | fault
  · obtain ⟨same, contents, succeeds, read, artifact_eq⟩ := loadObject_of_no_fault loads
    cases succeeds.symm.trans done
    exact ⟨contents, read, artifact_eq⟩
  · cases (loadObject_of_fault loads).symm.trans done

end MicroDevice
