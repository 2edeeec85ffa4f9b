import MicroDevice.Proofs.Files.Beside
import MicroDevice.Proofs.Files.Contents

/-! # Trees that agree elsewhere

Two trees agree beside a place if they differ at the place and below it alone
(`FileTree.AgreesBeside`). What is done below the place leaves them so. A path that does not lead
there denotes the same in both of them (`FileTree.AgreesBeside.resolve_eq`).
-/

namespace MicroDevice

namespace Path

/-- Joined parts are a prefix of the same parts joined with one more. -/
theorem intercalate_begins (separator last : List Char) {parts : List (List Char)}
    (some : parts ≠ []) :
    separator.intercalate parts <+: separator.intercalate (parts ++ [last]) := by
  induction parts with
  | nil => exact absurd rfl some
  | cons part parts ih =>
      rcases parts with _ | ⟨next, parts⟩
      · simp [List.intercalate_cons_cons]
      · rw [List.cons_append, List.cons_append, List.intercalate_cons_cons,
          List.intercalate_cons_cons]
        exact (List.prefix_append_right_inj _).mpr (ih (List.cons_ne_nil next parts))

/-- The stem of a name is its beginning. -/
theorem stem_begins_name (name : String) : (divideName name).1 <+: name.toList := by
  unfold divideName
  split
  · rename_i extension first earlier parts
    dsimp only
    split
    · exact List.prefix_refl _
    · have whole : name.toList.splitOn '.' = (first :: earlier).reverse ++ [extension] := by
        rw [← List.reverse_reverse (name.toList.splitOn '.'), parts, List.reverse_cons]
      have some : (first :: earlier).reverse ≠ [] := by simp
      have begins := intercalate_begins ['.'] extension some
      rwa [← whole, List.intercalate_splitOn] at begins
  · exact List.prefix_refl _

/-- Anchoring a path adds no part to it. -/
theorem anchored_subset (path : Path) : path.anchored.2 ⊆ path.parts := by
  unfold anchored
  split
  · rename_i later isParts
    rw [isParts]
    split
    · exact List.subset_cons_self _ _
    · exact List.Subset.refl _
  · rename_i later isParts
    rw [isParts]
    exact List.subset_cons_self _ _
  · exact List.Subset.refl _

/-- A file name is a part of the path that is not trivial and does not lead upward. -/
theorem part_of_fileName? {path : Path} {name : String} (named : path.fileName? = some name) :
    name.toList ∈ path.parts ∧ isTrivial name.toList = false ∧ name.toList ≠ upward := by
  unfold fileName? at named
  split at named
  · rename_i part last
    split at named <;> cases named
    rename_i notUpward
    rw [String.toList_ofList]
    have member := List.mem_of_getLast? last
    rw [dropTrivialEnd, List.mem_reverse] at member
    have isPart : part ∈ path.parts := path.anchored_subset
      (List.mem_reverse.mp ((List.dropWhile_sublist _).subset member))
    refine ⟨isPart, ?_, notUpward⟩
    have nontrivial := List.head?_dropWhile_not isTrivial path.anchored.2.reverse
    rw [dropTrivialEnd, List.getLast?_reverse] at last
    rw [last] at nontrivial
    exact nontrivial
  · cases named

/-- A file name is a plain part of the path. -/
theorem plain_of_fileName? {path : Path} {name : String} (named : path.fileName? = some name) :
    '/' ∉ name.toList ∧ isTrivial name.toList = false ∧ name.toList ≠ upward := by
  obtain ⟨isPart, plain⟩ := part_of_fileName? named
  exact ⟨separator_not_mem_of_mem_splitOn isPart, plain⟩

/-- The stem of a file name holds no slash. -/
theorem noSlash_of_fileStem? {path : Path} {stem : String} (named : path.fileStem? = some stem) :
    '/' ∉ stem.toList := by
  obtain ⟨name, isName, rfl⟩ := Option.map_eq_some_iff.mp named
  rw [String.toList_ofList]
  exact fun member => (plain_of_fileName? isName).1 ((stem_begins_name name).subset member)

end Path

namespace FileTree

/-- The trees differ at a place and below it alone. -/
structure AgreesBeside (place : Location) (tree other : FileTree) : Prop where
  workingDirectory_eq : other.workingDirectory = tree.workingDirectory
  entry_eq : ∀ location, ¬ place <+: location → other.entry? location = tree.entry? location

/-- All that is above the place is a directory. -/
def Rooted (tree : FileTree) (place : Location) : Prop :=
  ∀ above, above <+: place → above ≠ place → tree.entry? above = some .directory

/-- The path begins elsewhere and does not have the name of the place as a part. -/
structure Private (tree : FileTree) (place : Location) (path : Path) : Prop where
  beside : ¬ place <+: tree.workingDirectory
  unnamed : ∀ name ∈ path.parts, place.getLast? ≠ some name

instance (place : Location) : IsPreorder FileTree (AgreesBeside place) where
  refl _ := ⟨rfl, fun _ _ => rfl⟩
  trans _ _ _ first second :=
    ⟨second.workingDirectory_eq.trans first.workingDirectory_eq, fun location beside =>
      (second.entry_eq location beside).trans (first.entry_eq location beside)⟩

variable {tree other made : FileTree} {place : Location} {path : Path}

/-- A tree that agrees beside a place with a rooted one is rooted there too. -/
theorem AgreesBeside.rooted (agrees : tree.AgreesBeside place other) (rooted : tree.Rooted place) :
    other.Rooted place := by
  intro above isAbove differs
  have beside : ¬ place <+: above := fun below =>
    differs (isAbove.eq_of_length_le below.length_le)
  rw [agrees.entry_eq above beside, rooted above isAbove differs]

/-! ## What is done below a place -/

/-- What is not below a place is not at a location below it. -/
theorem ne_of_beside {location : Location} (beside : ¬ place <+: location) (names : Location) :
    location ≠ place ++ names := by
  rintro rfl
  exact beside (List.prefix_append place names)

/-- Putting an entry below a place changes nothing beside that place. -/
theorem agreesBeside_put (tree : FileTree) (place names : Location) (entry : Entry) :
    tree.AgreesBeside place (tree.put (place ++ names) entry) :=
  ⟨rfl, fun _ beside => tree.entry_put_of_ne (ne_of_beside beside names) entry⟩

/-- Writing a file below a place changes nothing beside that place. -/
theorem agreesBeside_write {names : Location} {contents : Bytes}
    (spells : path.Spells (place ++ names)) (writes : tree.write path contents = .ok made) :
    tree.AgreesBeside place made := by
  obtain ⟨reached, resolves, -, rfl⟩ := write_ok writes
  obtain ⟨rfl, -, -⟩ := (tree.resolve_eq_ok_iff spells reached).mp resolves
  exact tree.agreesBeside_put place names _

/-- Directories are not made above the place, where there are some. -/
theorem agreesBeside_makeDirectories {names : Location} (rooted : tree.Rooted place)
    (spells : path.Spells (place ++ names)) (named : place ++ names ≠ [])
    (makes : tree.makeDirectories path = .ok made) : tree.AgreesBeside place made := by
  refine ⟨(extends_makeDirectories makes).workingDirectory_eq, fun location beside => ?_⟩
  by_cases onTheWay : location <+: place
  · have directory := rooted location onTheWay
      fun same => beside (same ▸ List.prefix_refl location)
    rw [directory, (extends_makeDirectories makes).entry_of location _ directory]
  · refine entry_makeDirectories spells named (fun above => ?_) makes
    rcases List.prefix_or_prefix_of_prefix above (List.prefix_append place names) with
      isAbove | below
    · exact onTheWay isAbove
    · exact beside below

/-- A temporary directory differs from nothing that was there before. -/
theorem agreesBeside_makeTemporary {stem : String} (noSlash : '/' ∉ stem.toList)
    (makes : tree.makeTemporary stem = .ok (path, made)) :
    tree.AgreesBeside (temporaryLocation stem tree.temporaries) made := by
  obtain ⟨-, -, rfl⟩ := makeTemporary_ok noSlash makes
  refine ⟨rfl, fun location beside => entry_put_of_ne _ (fun same => ?_) _⟩
  exact beside (same ▸ List.prefix_refl location)

/-- What is above a new temporary directory is there, and its path is not too long. -/
theorem rooted_of_makeTemporary {stem : String} (noSlash : '/' ∉ stem.toList)
    (makes : tree.makeTemporary stem = .ok (path, made)) :
    tree.Rooted (temporaryLocation stem tree.temporaries) ∧
      path.Allowed (temporaryLocation stem tree.temporaries) := by
  obtain ⟨rfl, makesOne⟩ := makeDirectory_of_makeTemporary makes
  have spells := spells_temporary noSlash tree.temporaries
  obtain ⟨resolves, -, -⟩ :=
    makeDirectory_spelled spells (temporaryLocation_ne stem tree.temporaries) makesOne
  obtain ⟨-, allowed, rooted⟩ := (resolve_eq_ok_iff _ spells _).mp resolves
  exact ⟨rooted, allowed⟩

/-- Removing a place changes nothing beside it. -/
theorem agreesBeside_removeAll (spells : path.Spells place) :
    tree.AgreesBeside place (tree.removeAll path) := by
  refine ⟨?_, fun location beside => tree.entry_removeAll spells beside⟩
  unfold removeAll
  split <;> rfl

/-- Nothing is left at a place that was removed, nor below it. -/
theorem entry_removeAll_below {location : Location} (rooted : tree.Rooted place)
    (spells : path.Spells place) (allowed : path.Allowed place) (named : place ≠ [])
    (below : place <+: location) : entry? (tree.removeAll path) location = none := by
  have resolves := (tree.resolve_eq_ok_iff spells place).mpr ⟨rfl, allowed, rooted⟩
  rw [removeAll, resolves]
  dsimp only
  rw [entry_removeTree, if_neg (below.ne_nil named), if_pos below]

/-! ## What is found elsewhere -/

/-- Parts that do not lead to a place lead to the same location in both trees, which is not
below the place. -/
theorem AgreesBeside.walk_eq (agrees : tree.AgreesBeside place other) {parts : List (List Char)}
    (unnamed : ∀ name ∈ parts, place.getLast? ≠ some name) {start : Location}
    (beside : ¬ place <+: start) :
    other.walk start parts = tree.walk start parts ∧
      ∀ reached, tree.walk start parts = .ok reached → ¬ place <+: reached := by
  induction parts generalizing start with
  | nil =>
      refine ⟨rfl, fun reached walks => ?_⟩
      cases walks
      exact beside
  | cons part later ih =>
      have continues (next : Location) (elsewhere : ¬ place <+: next) :=
        @ih (fun name member => unnamed name (List.mem_cons_of_mem part member)) next elsewhere
      have upward : ¬ place <+: start.dropLast := fun below =>
        beside (below.trans (List.dropLast_prefix start))
      have onward : ¬ place <+: start ++ [part] := by
        intro below
        rcases List.prefix_concat_iff.mp below with same | above
        · exact unnamed part List.mem_cons_self (same ▸ List.getLast?_concat)
        · exact beside above
      have fails (fault : IoFault) : ∀ reached, Except.error fault = .ok reached →
          ¬ place <+: reached := fun _ impossible => by cases impossible
      rw [walk, walk, agrees.entry_eq start beside]
      rcases tree.entry? start with _ | ⟨_ | contents⟩
      · exact ⟨rfl, fails _⟩
      · dsimp only
        split
        · exact continues start beside
        · split
          · exact continues _ upward
          · split
            · exact ⟨rfl, fails _⟩
            · exact continues _ onward
      · exact ⟨rfl, fails _⟩

/-- A path that does not lead to a place denotes the same location in both trees, which is not
below the place. -/
theorem AgreesBeside.resolve_eq (agrees : tree.AgreesBeside place other)
    (hidden : tree.Private place path) (named : place ≠ []) :
    other.resolve path = tree.resolve path ∧
      ∀ reached, tree.resolve path = .ok reached → ¬ place <+: reached := by
  have begins : ¬ place <+: if path.isAbsolute then [] else tree.workingDirectory := by
    split
    · exact fun below => named (List.prefix_nil.mp below)
    · exact hidden.beside
  have fails (fault : IoFault) : ∀ reached, Except.error fault = .ok reached →
      ¬ place <+: reached := fun _ impossible => by cases impossible
  unfold resolve
  rw [agrees.workingDirectory_eq]
  split
  · exact ⟨rfl, fails _⟩
  · split
    · exact ⟨rfl, fails _⟩
    · split
      · exact ⟨rfl, fails _⟩
      · exact agrees.walk_eq hidden.unnamed begins

/-- A path that never reaches the place reads the same text in two trees that agree beside it. -/
theorem AgreesBeside.readText_eq (agrees : tree.AgreesBeside place other)
    (hidden : tree.Private place path) (named : place ≠ []) :
    other.readText path = tree.readText path := by
  obtain ⟨resolves, elsewhere⟩ := agrees.resolve_eq hidden named
  have reads : other.read path = tree.read path := by
    rw [read, read, resolves]
    rcases resolved : tree.resolve path with fault | reached
    · rfl
    · dsimp only
      rw [agrees.entry_eq reached (elsewhere reached resolved)]
  rw [readText, readText, reads]

end FileTree

end MicroDevice
