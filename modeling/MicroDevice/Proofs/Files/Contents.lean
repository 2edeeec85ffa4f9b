import MicroDevice.Proofs.Files.Presence
import MicroDevice.Proofs.Text.Encoding

/-! # Files that were written

A file that was written is there with the contents that were put into it
(`FileTree.read_write`), and a text is read back from the bytes that encode it
(`FileTree.readText_write`). A path leads to the same place after the write as before, since
it only leads through directories.
-/

namespace MicroDevice

namespace FileTree

variable {tree other : FileTree}

/-- A path leads on to the same place when its directories are still there. -/
theorem walk_of_directories
    (kept : ∀ location, tree.entry? location = some .directory →
      other.entry? location = some .directory)
    {parts : List (List Char)} {start reached : Location}
    (walks : tree.walk start parts = .ok reached) : other.walk start parts = .ok reached := by
  induction parts generalizing start with
  | nil => exact walks
  | cons part later ih =>
      rw [walk] at walks ⊢
      rcases held : tree.entry? start with _ | ⟨_ | contents⟩ <;> rw [held] at walks
      · cases walks
      · rw [kept start held]
        dsimp only at walks ⊢
        split at walks
        · rename_i trivial_
          rw [if_pos trivial_]
          exact ih walks
        · rename_i named
          rw [if_neg named]
          split at walks
          · rename_i above
            rw [if_pos above]
            exact ih walks
          · rename_i below
            rw [if_neg below]
            split at walks
            · cases walks
            · rename_i short
              rw [if_neg short]
              exact ih walks
      · cases walks

/-- A path that resolves in one tree resolves to the same location in a tree that keeps its
directories. -/
theorem resolve_of_directories
    (kept : ∀ location, tree.entry? location = some .directory →
      other.entry? location = some .directory)
    (same : other.workingDirectory = tree.workingDirectory) {path : Path} {reached : Location}
    (resolves : tree.resolve path = .ok reached) : other.resolve path = .ok reached := by
  unfold resolve at resolves ⊢
  split at resolves
  · cases resolves
  · split at resolves
    · cases resolves
    · split at resolves
      · cases resolves
      · rename_i noNul named short
        rw [if_neg noNul, if_neg named, if_neg short, same]
        exact walk_of_directories kept resolves

/-- A file that was written has the contents that were put into it. -/
theorem read_write {written : FileTree} {path : Path} {contents : Bytes}
    (writes : tree.write path contents = .ok written) : written.read path = .ok contents := by
  obtain ⟨location, resolved, isFile, rfl⟩ := write_ok writes
  have named : location ≠ [] := by
    rintro rfl
    exact isFile tree.entry_root
  have kept : ∀ place, tree.entry? place = some .directory →
      entry? (tree.put location (.file contents)) place = some .directory := by
    intro place directory
    have differs : place ≠ location := by
      rintro rfl
      exact isFile directory
    rw [entry_put, if_neg differs, directory]
    exact ite_self _
  rw [read, resolve_of_directories kept rfl resolved]
  dsimp only
  rw [entry_put, if_neg named, if_pos rfl]

/-- A text that was written is read back. -/
theorem readText_write {written : FileTree} {path : Path} {text : String}
    (writes : tree.write path (Text.encode text) = .ok written) :
    written.readText path = .ok text := by
  rw [readText, read_write writes]
  dsimp only
  rw [Text.decode?_encode]

end FileTree

end MicroDevice
