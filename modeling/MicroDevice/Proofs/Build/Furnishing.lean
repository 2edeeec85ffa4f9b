import Mathlib.Data.List.Nodup
import MicroDevice.Proofs.Build.Making
import MicroDevice.Proofs.Files.Elsewhere

/-! # Directories that are furnished

A new directory is filled with entries under names that lead there from it (`Path.descend`). What
it holds is told by the list of these entries (`FileTree.Furnished`). A file is written or a
directory made where there is none, and a file is not written over a directory.
-/

namespace MicroDevice

namespace Path

variable {path : Path} {location : Location} {names others : List String}

/-- The path to which names lead from a directory. -/
def descend (directory : Path) (names : List String) : Path :=
  names.foldl join directory

theorem descend_singleton (directory : Path) (name : String) :
    directory.descend [name] = directory.join name := rfl

theorem descend_pair (directory : Path) (name below : String) :
    directory.descend [name, below] = (directory.join name).join below := rfl

/-- A name that a file can be given. -/
structure Usable (name : String) : Prop where
  isFileName : Sources.IsFileName name
  noNul : Char.ofNat 0 ∉ name.toList
  size_le : name.utf8ByteSize ≤ FileTree.nameLimit

instance : DecidablePred Usable := fun name =>
  decidable_of_iff (Sources.IsFileName name ∧ Char.ofNat 0 ∉ name.toList ∧
      name.utf8ByteSize ≤ FileTree.nameLimit)
    ⟨fun ⟨isFileName, noNul, size_le⟩ => ⟨isFileName, noNul, size_le⟩,
      fun usable => ⟨usable.isFileName, usable.noNul, usable.size_le⟩⟩

/-- Names below a directory spell the location below its own. -/
theorem Spells.descend (spells : path.Spells location) (named : location ≠ [])
    (areNames : ∀ name ∈ names, Sources.IsFileName name) :
    (path.descend names).Spells (location ++ names.map String.toList) := by
  induction names generalizing path location with
  | nil => simpa [Path.descend] using spells
  | cons name later ih =>
      have first := areNames name List.mem_cons_self
      have rest := ih (spells.join named first.1 first.2) (by simp)
        fun other member => areNames other (List.mem_cons_of_mem _ member)
      rwa [List.append_assoc, List.singleton_append] at rest

/-- Usable names are allowed below a directory if its path is short enough for their number. -/
theorem Allowed.descend (allowed : path.Allowed location) (spells : path.Spells location)
    (named : location ≠ []) (usable : ∀ name ∈ names, Usable name)
    (short : path.text.utf8ByteSize + names.length * (FileTree.nameLimit + 1) ≤
      FileTree.pathLimit) :
    (path.descend names).Allowed (location ++ names.map String.toList) := by
  induction names generalizing path location with
  | nil => simpa [Path.descend] using allowed
  | cons name later ih =>
      have first := usable name List.mem_cons_self
      have fits := first.size_le
      rw [List.length_cons, Nat.succ_mul] at short
      have size : (path.join name).text.utf8ByteSize =
          path.text.utf8ByteSize + (name.utf8ByteSize + 1) := by
        have slash : "/".utf8ByteSize = 1 := rfl
        rw [spells.join_eq named first.isFileName.1, String.utf8ByteSize_append,
          String.utf8ByteSize_append]
        omega
      have joined : (path.join name).Allowed (location ++ [name.toList]) := by
        refine ⟨?_, by omega, fun other member => ?_⟩
        · have noNul := allowed.noNul
          have inName := first.noNul
          rw [spells.join_eq named first.isFileName.1]
          simp only [List.contains_eq_mem, decide_eq_false_iff_not] at noNul ⊢
          simp [noNul, inName]
        · rcases List.mem_append.mp member with above | equal
          · exact allowed.name_le other above
          · rw [List.mem_singleton.mp equal, String.ofList_toList]
            exact fits
      have rest := ih joined (spells.join named first.isFileName.1 first.isFileName.2) (by simp)
        (fun other member => usable other (List.mem_cons_of_mem _ member)) (by omega)
      rwa [List.append_assoc, List.singleton_append] at rest

/-- A directory with room for names on two levels. -/
structure Roomy (directory : Path) (place : Location) : Prop where
  spells : directory.Spells place
  named : place ≠ []
  allowed : directory.Allowed place
  short : directory.text.utf8ByteSize + 2 * (FileTree.nameLimit + 1) ≤ FileTree.pathLimit

/-- In a roomy directory usable names spell the location below its own. -/
theorem Roomy.descend_spells (roomy : path.Roomy location)
    (usable : ∀ name ∈ names, Usable name) :
    (path.descend names).Spells (location ++ names.map String.toList) :=
  roomy.spells.descend roomy.named fun name member => (usable name member).isFileName

/-- Up to two usable names below a roomy directory stay within the limits of paths. -/
theorem Roomy.descend_allowed (roomy : path.Roomy location)
    (usable : ∀ name ∈ names, Usable name) (shallow : names.length ≤ 2) :
    (path.descend names).Allowed (location ++ names.map String.toList) := by
  have room := Nat.mul_le_mul_right (FileTree.nameLimit + 1) shallow
  have short := roomy.short
  exact roomy.allowed.descend roomy.spells roomy.named usable (by omega)

theorem map_toList_inj : names.map String.toList = others.map String.toList ↔ names = others :=
  List.map_inj_right fun _ _ same => String.toList_inj.mp same

/-- Names that lead to the same path are the same. -/
theorem Spells.descend_inj (spells : path.Spells location) (named : location ≠ [])
    (areNames : ∀ name ∈ names, Sources.IsFileName name)
    (also : ∀ name ∈ others, Sources.IsFileName name)
    (same : path.descend names = path.descend others) : names = others := by
  have first := (spells.descend named areNames).parts_eq
  rw [same, (spells.descend named also).parts_eq, List.cons.injEq] at first
  exact map_toList_inj.mp (List.append_cancel_left first.2).symm

/-- The file name of a path is the last name that it spells. -/
theorem Spells.fileName? {name : String} (spells : path.Spells (location ++ [name.toList])) :
    path.fileName? = some name := by
  have plain := spells.plain name.toList (by simp)
  have begins : path.anchored = (.root, location ++ [name.toList]) := by
    rw [anchored, spells.parts_eq]
    exact if_pos spells.absolute
  rw [Path.fileName?, begins]
  dsimp only
  rw [dropTrivialEnd_concat _ plain.1, List.getLast?_concat]
  dsimp only
  rw [if_neg plain.2, String.ofList_toList]

/-- A name is divided at its last dot if something stands before that. -/
theorem divideName_of_dot {name : String} {front last : List Char}
    (whole : name.toList = front ++ '.' :: last) (noDot : '.' ∉ last) (some_ : front ≠ []) :
    divideName name = (front, some last) := by
  have parts : (name.toList.splitOn '.').reverse = last :: (front.splitOn '.').reverse := by
    rw [whole, List.splitOn_append_cons_self, List.splitOn_eq_singleton noDot,
      List.reverse_append, List.reverse_singleton, List.singleton_append]
  obtain ⟨first, earlier, split⟩ := List.exists_cons_of_ne_nil
    (List.reverse_ne_nil_iff.mpr (List.splitOn_ne_nil '.' front))
  have stem : ['.'].intercalate (first :: earlier).reverse = front := by
    rw [← split, List.reverse_reverse, List.intercalate_splitOn]
  rw [divideName, parts, split]
  dsimp only
  rw [stem, if_neg some_]

/-- What is divided holds all characters of its parts. -/
theorem subset_of_mem_splitOn {separator : Char} {text part : List Char}
    (member : part ∈ text.splitOn separator) : part ⊆ text := by
  induction text generalizing part with
  | nil =>
      rw [List.splitOn_nil, List.mem_singleton] at member
      simp [member]
  | cons character text ih =>
      rw [List.splitOn_cons_eq_if_modifyHead] at member
      split at member
      · rcases List.mem_cons.mp member with rfl | later
        · exact List.nil_subset _
        · exact List.subset_cons_of_subset _ (ih later)
      · rcases parts : text.splitOn separator with _ | ⟨first, later⟩
        · exact absurd parts (List.splitOn_ne_nil separator text)
        · rw [parts, List.modifyHead_cons] at member
          rcases List.mem_cons.mp member with rfl | inLater
          · exact List.cons_subset_cons _ (ih (parts ▸ List.mem_cons_self))
          · exact List.subset_cons_of_subset _ (ih (parts ▸ List.mem_cons_of_mem first inLater))

end Path

namespace FileTree

variable {tree : FileTree} {place : Location} {path : Path} {made : List (List String × Entry)}
  {names : List String} {entry : Entry}

/-- A directory holds the entries of a list, under the names that lead to them, and nothing else.
Of entries with the same names the first holds. -/
structure Furnished (tree : FileTree) (place : Location) (made : List (List String × Entry)) :
    Prop where
  rooted : tree.Rooted place
  entry_eq : ∀ names : List String, tree.entry? (place ++ names.map String.toList) =
    if names = [] then some .directory else made.lookup names

/-- All that is above some names is a directory. -/
def Opens (made : List (List String × Entry)) (names : List String) : Prop :=
  ∀ above, above <+: names → above ≠ names → above ≠ [] → made.lookup above = some .directory

/-- Nothing has to be above a single name. -/
theorem opens_singleton (made : List (List String × Entry)) (name : String) :
    Opens made [name] := by
  intro above isAbove differs named
  rcases List.prefix_cons_iff.mp isAbove with rfl | ⟨rest, rfl, isNil⟩
  · exact absurd rfl named
  · rw [List.prefix_nil.mp isNil] at differs
    exact absurd rfl differs

/-- A directory opens the names in it. -/
theorem opens_pair {directory : String} (held : made.lookup [directory] = some .directory)
    (name : String) : Opens made [directory, name] := by
  intro above isAbove differs named
  rcases List.prefix_cons_iff.mp isAbove with rfl | ⟨rest, rfl, further⟩
  · exact absurd rfl named
  · rcases List.prefix_cons_iff.mp further with rfl | ⟨last, rfl, isNil⟩
    · exact held
    · rw [List.prefix_nil.mp isNil] at differs
      exact absurd rfl differs

/-- One more entry. -/
theorem Furnished.put (furnished : tree.Furnished place made) (named : place ≠ [])
    (deep : names ≠ []) (entry : Entry) :
    (tree.put (place ++ names.map String.toList) entry).Furnished place ((names, entry) :: made)
    := by
  refine ⟨(tree.agreesBeside_put place _ entry).rooted furnished.rooted, fun others => ?_⟩
  have below : place ++ others.map String.toList ≠ [] := by simp [named]
  have beside : place ++ others.map String.toList = place ++ names.map String.toList ↔
      others = names := by
    rw [List.append_cancel_left_eq, Path.map_toList_inj]
  rw [entry_put, if_neg below, furnished.entry_eq, List.lookup_cons]
  by_cases same : others = names
  · simp [same, deep]
  · rw [if_neg (beside.not.mpr same), beq_false_of_ne same]

/-- A path leads through the directories above it. -/
theorem Furnished.resolve (furnished : tree.Furnished place made)
    (spells : path.Spells (place ++ names.map String.toList))
    (allowed : path.Allowed (place ++ names.map String.toList)) (opens : Opens made names) :
    tree.resolve path = .ok (place ++ names.map String.toList) := by
  refine (tree.resolve_eq_ok_iff spells _).mpr ⟨rfl, allowed, fun above isAbove differs => ?_⟩
  rcases List.prefix_or_prefix_of_prefix isAbove (List.prefix_append place _) with outer | inner
  · by_cases same : above = place
    · have held := furnished.entry_eq []
      rwa [List.map_nil, List.append_nil, if_pos rfl, ← same] at held
    · exact furnished.rooted above outer same
  · obtain ⟨rest, rfl⟩ := inner
    obtain ⟨within, begins, rfl⟩ :=
      List.prefix_map_iff.mp ((List.prefix_append_right_inj place).mp isAbove)
    rw [furnished.entry_eq]
    split
    · rfl
    · rename_i named
      exact opens within begins (fun same => differs (by rw [same])) named

/-- A file is written where there is no directory. -/
theorem Furnished.write (furnished : tree.Furnished place made)
    (spells : path.Spells (place ++ names.map String.toList))
    (allowed : path.Allowed (place ++ names.map String.toList)) (named : place ≠ [])
    (deep : names ≠ []) (opens : Opens made names) (free : made.lookup names ≠ some .directory)
    (contents : Bytes) :
    tree.write path contents =
      .ok (tree.put (place ++ names.map String.toList) (.file contents)) := by
  have below : place ++ names.map String.toList ≠ [] := by simp [named]
  have held := furnished.entry_eq names
  rw [if_neg deep] at held
  rw [write_spelled spells below (furnished.resolve spells allowed opens), held, if_neg free]

/-- A directory is not replaced by a file. -/
theorem Furnished.write_of_directory (furnished : tree.Furnished place made)
    (spells : path.Spells (place ++ names.map String.toList))
    (allowed : path.Allowed (place ++ names.map String.toList)) (named : place ≠ [])
    (deep : names ≠ []) (opens : Opens made names) (taken : made.lookup names = some .directory)
    (contents : Bytes) : tree.write path contents = .error .isADirectory := by
  have below : place ++ names.map String.toList ≠ [] := by simp [named]
  have held := furnished.entry_eq names
  rw [if_neg deep, taken] at held
  rw [write_spelled spells below (furnished.resolve spells allowed opens), held, if_pos rfl]

/-- A directory is made where nothing is. -/
theorem Furnished.makeDirectories (furnished : tree.Furnished place made)
    (spells : path.Spells (place ++ names.map String.toList))
    (allowed : path.Allowed (place ++ names.map String.toList)) (named : place ≠ [])
    (deep : names ≠ []) (opens : Opens made names) (free : made.lookup names = none) :
    tree.makeDirectories path =
      .ok (tree.put (place ++ names.map String.toList) .directory) := by
  have below : place ++ names.map String.toList ≠ [] := by simp [named]
  have held := furnished.entry_eq names
  rw [if_neg deep, free] at held
  have makes : tree.makeDirectory path =
      .ok (tree.put (place ++ names.map String.toList) .directory) := by
    rw [makeDirectory, spells.withoutEndSlashes below, furnished.resolve spells allowed opens]
    dsimp only
    rw [held]
  rw [FileTree.makeDirectories, makeDirectoriesWithin, if_neg spells.text_ne, makes]

/-- What is found at a path is the entry of the names that lead there. -/
theorem Furnished.find?_eq (furnished : tree.Furnished place made)
    (spells : path.Spells (place ++ names.map String.toList))
    (allowed : path.Allowed (place ++ names.map String.toList)) (deep : names ≠ [])
    (opens : Opens made names) : tree.find? path = made.lookup names := by
  rw [find?, furnished.resolve spells allowed opens]
  dsimp only
  rw [furnished.entry_eq, if_neg deep]

/-- Nothing is found at names that a furnished directory does not list. -/
theorem Furnished.find?_eq_none (furnished : tree.Furnished place made)
    (spells : path.Spells (place ++ names.map String.toList)) (deep : names ≠ [])
    (absent : made.lookup names = none) : tree.find? path = none := by
  unfold find?
  split
  · rename_i reached resolves
    obtain ⟨rfl, -, -⟩ := (tree.resolve_eq_ok_iff spells reached).mp resolves
    rw [furnished.entry_eq, if_neg deep, absent]
  · rfl

/-! ## Lists of entries -/

/-- Entries of a directory that are a level below it, or two levels below it in a directory that is
one of them. -/
structure Layered (made : List (List String × Entry)) : Prop where
  usable : ∀ names ∈ made.map Prod.fst, ∀ name ∈ names, Path.Usable name
  levels : ∀ names ∈ made.map Prod.fst, (∃ name, names = [name]) ∨
    ∃ directory name, names = [directory, name] ∧ ([directory], .directory) ∈ made

theorem layered_singleton {name : String} (usable : Path.Usable name) (entry : Entry) :
    Layered [([name], entry)] :=
  ⟨by simpa using usable, by simp⟩

/-- Layered lists are layered together. -/
theorem Layered.append {more : List (List String × Entry)} (first : Layered made)
    (second : Layered more) : Layered (made ++ more) := by
  constructor <;> intro names member <;> rw [List.map_append, List.mem_append] at member
  · exact member.elim (first.usable names) (second.usable names)
  · rcases member with member | member
    · exact (first.levels names member).imp_right fun ⟨directory, name, same, held⟩ =>
        ⟨directory, name, same, List.mem_append_left more held⟩
    · exact (second.levels names member).imp_right fun ⟨directory, name, same, held⟩ =>
        ⟨directory, name, same, List.mem_append_right made held⟩

/-- An entry whose names are unique is the one found under them. -/
theorem lookup_of_mem (distinct : (made.map Prod.fst).Nodup) (member : (names, entry) ∈ made) :
    made.lookup names = some entry := by
  induction made with
  | nil => cases member
  | cons first later ih =>
      obtain ⟨absent, distinct⟩ := List.nodup_cons.mp distinct
      rw [List.lookup_cons]
      rcases List.mem_cons.mp member with rfl | member
      · rw [beq_self_eq_true]
      · have other : names ≠ first.1 := by
          rintro rfl
          exact absent (List.mem_map.mpr ⟨_, member, rfl⟩)
        rw [beq_false_of_ne other]
        exact ih distinct member

theorem lookup_of_not_mem (absent : names ∉ made.map Prod.fst) : made.lookup names = none := by
  refine List.lookup_eq_none_iff.mpr fun held member => ?_
  rw [bne_iff_ne]
  rintro rfl
  exact absent (List.mem_map_of_mem member)

/-- Entries under different names are found where they were put, whatever was put there later. -/
theorem Furnished.find?_of_mem (furnished : tree.Furnished place made.reverse)
    (roomy : path.Roomy place) (layered : Layered made) (distinct : (made.map Prod.fst).Nodup)
    (member : (names, entry) ∈ made) : tree.find? (path.descend names) = some entry := by
  have backwards : (made.reverse.map Prod.fst).Nodup := by
    rw [List.map_reverse, List.nodup_reverse]
    exact distinct
  have isMade : names ∈ made.map Prod.fst := List.mem_map.mpr ⟨_, member, rfl⟩
  have usable := layered.usable names isMade
  obtain ⟨deep, shallow, opens⟩ :
      names ≠ [] ∧ names.length ≤ 2 ∧ Opens made.reverse names := by
    rcases layered.levels names isMade with ⟨name, rfl⟩ | ⟨directory, name, rfl, held⟩
    · exact ⟨by simp, by simp, opens_singleton _ name⟩
    · exact ⟨by simp, by simp,
        opens_pair (lookup_of_mem backwards (List.mem_reverse.mpr held)) name⟩
  rw [furnished.find?_eq (roomy.descend_spells usable) (roomy.descend_allowed usable shallow) deep
    opens]
  exact lookup_of_mem backwards (List.mem_reverse.mpr member)

/-- A temporary directory that was just made is not furnished, if nothing was below it. -/
theorem furnished_of_makeTemporary {stem : String} (noSlash : '/' ∉ stem.toList) {grown : FileTree}
    (makes : tree.makeTemporary stem = .ok (path, grown))
    (vacant : ∀ location, temporaryLocation stem tree.temporaries <+: location →
      tree.entry? location = none) :
    grown.Furnished (temporaryLocation stem tree.temporaries) [] := by
  obtain ⟨-, -, rfl⟩ := makeTemporary_ok noSlash makes
  obtain ⟨rooted, -⟩ := rooted_of_makeTemporary noSlash makes
  refine ⟨(agreesBeside_makeTemporary noSlash makes).rooted rooted, fun names => ?_⟩
  have named := temporaryLocation_ne stem tree.temporaries
  have below : temporaryLocation stem tree.temporaries ++ names.map String.toList ≠ [] := by
    simp [named]
  rw [entry_put, if_neg below]
  by_cases deep : names = []
  · simp [deep]
  · have beside : temporaryLocation stem tree.temporaries ++ names.map String.toList ≠
        temporaryLocation stem tree.temporaries := by
      simpa using deep
    rw [if_neg beside, if_neg deep]
    exact vacant _ (List.prefix_append _ _)

/-! ## What is there already -/

/-- A path that leads to a file leads there still after a place without anything was filled. -/
theorem AgreesBeside.read_of_vacant {other : FileTree} {contents : Bytes}
    (agrees : tree.AgreesBeside place other)
    (vacant : ∀ location, place <+: location → tree.entry? location = none)
    (reads : tree.read path = .ok contents) : other.read path = .ok contents := by
  have beside {location : Location} (held : tree.entry? location ≠ none) :
      other.entry? location = tree.entry? location :=
    agrees.entry_eq location fun below => held (vacant location below)
  unfold read at reads ⊢
  rcases resolves : tree.resolve path with fault | location <;> rw [resolves] at reads
  · cases reads
  · have stays := resolve_of_directories (fun location directory => by
      rw [beside (by rw [directory]; exact Option.some_ne_none _), directory])
      agrees.workingDirectory_eq resolves
    rw [stays]
    dsimp only at reads ⊢
    rcases held : tree.entry? location with _ | entry <;> rw [held] at reads
    · cases reads
    · rw [beside (by rw [held]; exact Option.some_ne_none _), held]
      exact reads

/-- A text that is read while a place is vacant is read whatever is put there. -/
theorem AgreesBeside.readText_of_vacant {other : FileTree} {text : String}
    (agrees : tree.AgreesBeside place other)
    (vacant : ∀ location, place <+: location → tree.entry? location = none)
    (reads : tree.readText path = .ok text) : other.readText path = .ok text := by
  unfold readText at reads ⊢
  rcases found : tree.read path with fault | contents <;> rw [found] at reads
  · cases reads
  · rw [agrees.read_of_vacant vacant found]
    exact reads

/-- The parts that are followed are short enough. -/
theorem size_le_of_walk {parts : List (List Char)} {start reached : Location}
    (walks : tree.walk start parts = .ok reached) {part : List Char} (member : part ∈ parts)
    (plain : Path.isTrivial part = false ∧ part ≠ Path.upward) :
    (String.ofList part).utf8ByteSize ≤ nameLimit := by
  induction parts generalizing start with
  | nil => cases member
  | cons first later ih =>
      rw [walk] at walks
      split at walks
      · cases walks
      · cases walks
      · split at walks
        · rename_i trivial_
          rcases List.mem_cons.mp member with rfl | member
          · rw [plain.1] at trivial_
            cases trivial_
          · exact ih walks member
        · split at walks
          · rename_i isUpward
            rcases List.mem_cons.mp member with rfl | member
            · exact absurd isUpward plain.2
            · exact ih walks member
          · split at walks
            · cases walks
            · rename_i short
              rcases List.mem_cons.mp member with rfl | member
              · exact Nat.not_lt.mp short
              · exact ih walks member

/-- The name of a file that is read is usable. -/
theorem usable_of_readText {text name : String} (reads : tree.readText path = .ok text)
    (named : path.fileName? = some name) : Path.Usable name := by
  obtain ⟨isPart, plain⟩ := Path.part_of_fileName? named
  unfold readText at reads
  rcases found : tree.read path with fault | contents <;> rw [found] at reads
  · cases reads
  · unfold read at found
    rcases resolves : tree.resolve path with fault | reached <;> rw [resolves] at found
    · cases found
    · obtain ⟨noNul, -, -, walks⟩ := resolve_eq_ok.mp resolves
      have short := size_le_of_walk walks isPart plain
      rw [String.ofList_toList] at short
      exact ⟨Path.plain_of_fileName? named,
        fun member => noNul (Path.subset_of_mem_splitOn isPart member), short⟩

end FileTree

end MicroDevice
