import MicroDevice.Proofs.Files.Presence

/-! # What file operations leave alone

Writing a file and making directories change what is on the way to their place, and nothing beside
it (`FileTree.entry_write`, `FileTree.entry_makeDirectories`). A removal brings nothing about
(`FileTree.contains_of_removeAll`).
-/

namespace MicroDevice

namespace Path

/-- The parts between separators hold no separator. -/
theorem separator_not_mem_of_mem_splitOn {separator : Char} {text part : List Char}
    (member : part ∈ text.splitOn separator) : separator ∉ part := by
  induction text generalizing part with
  | nil =>
      rw [List.splitOn_nil, List.mem_singleton] at member
      simp [member]
  | cons character text ih =>
      rw [List.splitOn_cons_eq_if_modifyHead] at member
      split at member
      · rcases List.mem_cons.mp member with rfl | later
        · exact List.not_mem_nil
        · exact ih later
      · rename_i other
        rcases parts : text.splitOn separator with _ | ⟨first, later⟩
        · exact absurd parts (List.splitOn_ne_nil separator text)
        · rw [parts, List.modifyHead_cons] at member
          have inFirst := @ih first (parts ▸ List.mem_cons_self)
          rcases List.mem_cons.mp member with rfl | inLater
          · rw [List.mem_cons, not_or]
            exact ⟨fun same => other (by simp [same]), inFirst⟩
          · exact ih (parts ▸ List.mem_cons_of_mem first inLater)

/-- A location is spelled by one path only. -/
theorem Spells.eq_of_spells {path other : Path} {location : Location}
    (spells : path.Spells location) (spelled : other.Spells location) (named : location ≠ []) :
    path = other :=
  (spells.assemble_eq named).symm.trans (spelled.assemble_eq named)

/-- The names of a location that a path spells hold no slash. -/
theorem Spells.noSlash {path : Path} {location : Location} (spells : path.Spells location) :
    ∀ name ∈ location, '/' ∉ name := by
  intro name member
  have isPart : name ∈ path.parts := spells.parts_eq ▸ List.mem_cons_of_mem [] member
  exact separator_not_mem_of_mem_splitOn isPart

/-- What is above a location is spelled too. -/
theorem Spells.above {path : Path} {location above : Location} (spells : path.Spells location)
    (isAbove : above <+: location) (named : above ≠ []) : (assemble .root above).Spells above := by
  have noSlash : ∀ name ∈ above, '/' ∉ name := fun name member =>
    spells.noSlash name (isAbove.subset member)
  refine ⟨?_, ?_, fun name member => spells.plain name (isAbove.subset member)⟩
  · simp [isAbsolute, assemble]
  · have spelled : (assemble .root above).text.toList = '/' :: ['/'].intercalate above := by
      simp [assemble]
    rw [parts, spelled, List.splitOn_cons_eq_if_modifyHead, if_pos (beq_self_eq_true '/'),
      List.splitOn_intercalate '/' noSlash named]

/-- The directory of a location is the location without its last name. -/
theorem Spells.parent {path : Path} {location : Location} (spells : path.Spells location)
    (named : location ≠ []) : path.parent? = some (assemble .root location.dropLast) := by
  have trimmed (names : Location) (within : names ⊆ location) : dropTrivialEnd names = names := by
    rcases List.eq_nil_or_concat names with rfl | ⟨earlier, name, rfl⟩
    · rfl
    · rw [List.concat_eq_append] at within ⊢
      exact dropTrivialEnd_concat earlier (spells.plain name (within (by simp))).1
  have begins : path.anchored = (.root, location) := by
    rw [anchored, spells.parts_eq]
    exact if_pos spells.absolute
  rw [parent?, begins]
  dsimp only
  rw [trimmed location (List.Subset.refl location)]
  split
  · exact absurd rfl named
  · rw [trimmed _ (List.dropLast_subset location)]

end Path

namespace FileTree

variable {tree made : FileTree} {path : Path} {location place : Location}

theorem entry_of_contains (spells : path.Spells location) (present : tree.contains path = true) :
    tree.entry? location ≠ none :=
  Option.isSome_iff_ne_none.mp ((tree.contains_iff_holds spells).mp present).2.present

/-- Putting an entry at one place leaves every other location's entry. -/
theorem entry_put_of_ne (tree : FileTree) (beside : location ≠ place) (entry : Entry) :
    entry? (tree.put place entry) location = tree.entry? location := by
  rw [entry_put, if_neg beside]
  split
  · rename_i root
    rw [root, entry_root]
  · rfl

/-- Writing a file leaves alone what is at other places. -/
theorem entry_write {contents : Bytes} (spells : path.Spells place) (beside : location ≠ place)
    (writes : tree.write path contents = .ok made) :
    entry? made location = tree.entry? location := by
  obtain ⟨reached, resolves, -, rfl⟩ := write_ok writes
  obtain ⟨rfl, -, -⟩ := (tree.resolve_eq_ok_iff spells reached).mp resolves
  exact tree.entry_put_of_ne beside _

/-- Making a directory leaves the entries of all other locations. -/
theorem entry_makeDirectory (spells : path.Spells place) (named : place ≠ [])
    (beside : location ≠ place) (makes : tree.makeDirectory path = .ok made) :
    entry? made location = tree.entry? location := by
  obtain ⟨-, -, rfl⟩ := makeDirectory_spelled spells named makes
  exact tree.entry_put_of_ne beside _

/-- The root is there already. -/
theorem makeDirectory_root (tree : FileTree) :
    tree.makeDirectory (Path.assemble .root []) = .error .alreadyExists := rfl

/-- Making the root with its parents changes nothing. -/
theorem makeDirectoriesWithin_root {fuel : Nat}
    (makes : makeDirectoriesWithin fuel tree (Path.assemble .root []) = .ok made) :
    made = tree := by
  cases fuel with
  | zero =>
      cases makes
      rfl
  | succ fuel =>
      rcases makeDirectoriesWithin_ok makes with ⟨same, -⟩ | one | ⟨_, _, notFound, -⟩
      · exact same
      · cases tree.makeDirectory_root.symm.trans one
      · cases tree.makeDirectory_root.symm.trans notFound

/-- Making directories up to a place leaves alone what is not above it. -/
theorem entry_makeDirectoriesWithin {fuel : Nat} (spells : path.Spells place)
    (named : place ≠ []) (beside : ¬ location <+: place)
    (makes : makeDirectoriesWithin fuel tree path = .ok made) :
    entry? made location = tree.entry? location := by
  induction fuel generalizing path place made with
  | zero =>
      cases makes
      rfl
  | succ fuel ih =>
      have apart : location ≠ place := fun same => beside (same ▸ List.prefix_refl location)
      rcases makeDirectoriesWithin_ok makes with
        ⟨rfl, -⟩ | one | ⟨parent, grown, -, isParent, above, last⟩
      · rfl
      · exact entry_makeDirectory spells named apart one
      · cases (spells.parent named).symm.trans isParent
        have kept : entry? grown location = tree.entry? location := by
          by_cases top : place.dropLast = []
          · rw [top] at above
            rw [makeDirectoriesWithin_root above]
          · have isAbove := List.dropLast_prefix place
            have below : ¬ location <+: place.dropLast := fun inside => beside (inside.trans isAbove)
            exact ih (spells.above isAbove top) top below above
        rcases last with ⟨rfl, -⟩ | one
        · exact kept
        · exact (entry_makeDirectory spells named apart one).trans kept

/-- Making a directory with its parents leaves the entries of locations that are no prefix of it. -/
theorem entry_makeDirectories (spells : path.Spells place) (named : place ≠ [])
    (beside : ¬ location <+: place) (makes : tree.makeDirectories path = .ok made) :
    entry? made location = tree.entry? location :=
  entry_makeDirectoriesWithin spells named beside makes

/-! ## Trees that grow -/

/-- All that is in the first tree is in the second one as well, and relative paths begin in the
same directory. -/
structure Extends (before after : FileTree) : Prop where
  workingDirectory_eq : after.workingDirectory = before.workingDirectory
  entry_of : ∀ location entry, before.entry? location = some entry →
    after.entry? location = some entry

theorem Extends.refl (tree : FileTree) : Extends tree tree :=
  ⟨rfl, fun _ _ held => held⟩

theorem Extends.trans {grown : FileTree} (first : Extends tree grown)
    (second : Extends grown made) : Extends tree made :=
  ⟨second.workingDirectory_eq.trans first.workingDirectory_eq,
    fun location entry held => second.entry_of location entry (first.entry_of location entry held)⟩

/-- A tree only grows when a directory is made in it. -/
theorem extends_makeDirectory (makes : tree.makeDirectory path = .ok made) :
    Extends tree made := by
  obtain ⟨reached, -, vacant, rfl⟩ := makeDirectory_ok makes
  refine ⟨rfl, fun location entry held => ?_⟩
  have beside : location ≠ reached := by
    rintro rfl
    rw [vacant] at held
    cases held
  rw [tree.entry_put_of_ne beside, held]

/-- A tree only grows while parents are made one by one. -/
theorem extends_makeDirectoriesWithin {fuel : Nat}
    (makes : makeDirectoriesWithin fuel tree path = .ok made) : Extends tree made := by
  induction fuel generalizing path made with
  | zero =>
      cases makes
      exact .refl tree
  | succ fuel ih =>
      rcases makeDirectoriesWithin_ok makes with
        ⟨rfl, -⟩ | one | ⟨parent, grown, -, -, above, ⟨rfl, -⟩ | one⟩
      · exact .refl made
      · exact extends_makeDirectory one
      · exact ih above
      · exact (ih above).trans (extends_makeDirectory one)

/-- A tree only grows when a directory is made with its parents. -/
theorem extends_makeDirectories (makes : tree.makeDirectories path = .ok made) :
    Extends tree made :=
  extends_makeDirectoriesWithin makes

/-! ## Removals -/

/-- A location that holds after a subtree is removed held before. -/
theorem Holds.of_removeTree (holds : (tree.removeTree place).Holds location) :
    tree.Holds location := by
  constructor
  · intro above isAbove differs
    have directory := holds.above above isAbove differs
    rw [entry_removeTree] at directory
    split at directory
    · rename_i root
      rw [root, entry_root]
    · split at directory
      · cases directory
      · exact directory
  · have present := holds.present
    rw [entry_removeTree] at present
    split at present
    · rename_i root
      rw [root, entry_root]
      rfl
    · split at present
      · cases present
      · exact present

/-- What is there after a removal was there before. -/
theorem contains_of_removeAll {removed : Path} (spells : path.Spells location)
    (present : (tree.removeAll removed).contains path = true) : tree.contains path = true := by
  obtain ⟨allowed, holds⟩ := (contains_iff_holds _ spells).mp present
  refine (contains_iff_holds _ spells).mpr ⟨allowed, ?_⟩
  unfold removeAll at holds
  split at holds
  · exact holds
  · exact holds.of_removeTree

end FileTree

end MicroDevice
