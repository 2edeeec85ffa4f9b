import Mathlib.Data.List.Basic
import MicroDevice.Files.FileTree

/-! # What is at a path

A path that spells out a location denotes that location in every tree in which it denotes
anything (`Path.Spells`). It denotes something exactly when the tree holds the location: the
locations above are directories, and there is an entry (`FileTree.contains_iff_holds`). What
each operation on a tree does is stated as what the tree holds after it.
-/

namespace MicroDevice

namespace Path

/-- The path begins at the root and names a location part by part. -/
structure Spells (path : Path) (location : Location) : Prop where
  absolute : path.isAbsolute = true
  parts_eq : path.parts = [] :: location
  plain : ∀ name ∈ location, isTrivial name = false ∧ name ≠ upward

/-- The limits of the file system allow the path. -/
structure Allowed (path : Path) (location : Location) : Prop where
  noNul : path.text.toList.contains (Char.ofNat 0) = false
  length_le : path.text.utf8ByteSize ≤ FileTree.pathLimit
  name_le : ∀ name ∈ location, (String.ofList name).utf8ByteSize ≤ FileTree.nameLimit

/-- A path that spells a location is not empty. -/
theorem Spells.text_ne {path : Path} {location : Location} (spells : path.Spells location) :
    path.text ≠ "" := by
  intro empty
  have absolute := spells.absolute
  simp [isAbsolute, empty] at absolute

/-- A name with a character other than a dot is plain. -/
theorem plain_of_mem {name : List Char} {character : Char} (member : character ∈ name)
    (noDot : character ≠ '.') : isTrivial name = false ∧ name ≠ upward := by
  constructor
  · simp only [isTrivial, Bool.or_eq_false_iff, decide_eq_false_iff_not]
    constructor <;> rintro rfl <;> simp [noDot] at member
  · rintro rfl
    simp [upward, noDot] at member

/-- The text of a path that ends in a name does not end in a slash. -/
theorem Spells.getLast_ne {path : Path} {location : Location} (spells : path.Spells location)
    (named : location ≠ []) {character : Char}
    (last : path.text.toList.getLast? = some character) : character ≠ '/' := by
  rintro rfl
  obtain ⟨front, split⟩ := List.getLast?_eq_some_iff.mp last
  have parts := spells.parts_eq
  rw [Path.parts, split, List.splitOn_append_cons_self] at parts
  have empty : ([] : List Char) ∈ location := by
    have final := congrArg List.getLast? parts
    rw [List.splitOn_nil, List.getLast?_concat, List.getLast?_cons] at final
    rw [List.getLast?_eq_getLast_of_ne_nil named] at final
    have equal : [] = location.getLast named := by simpa using final
    rw [equal]
    exact List.getLast_mem named
  simpa [isTrivial] using (spells.plain [] empty).1

/-- There are no slashes to take from the end of a path that ends in a name. -/
theorem Spells.withoutEndSlashes {path : Path} {location : Location}
    (spells : path.Spells location) (named : location ≠ []) :
    FileTree.withoutEndSlashes path = path := by
  obtain ⟨character, last⟩ : ∃ character, path.text.toList.getLast? = some character := by
    rw [← Option.isSome_iff_exists, List.getLast?_isSome]
    simpa using spells.text_ne
  obtain ⟨front, split⟩ := List.getLast?_eq_some_iff.mp last
  have inside := spells.getLast_ne named last
  have whole : String.ofList (front ++ [character]) = path.text := by
    rw [← split, String.ofList_toList]
  simp [FileTree.withoutEndSlashes, split, inside, whole]

/-- A name without slashes is joined to a path that spells a location after a slash. -/
theorem Spells.join_eq {path : Path} {location : Location} (spells : path.Spells location)
    (named : location ≠ []) {name : String} (noSlash : '/' ∉ name.toList) :
    path.join name = ⟨path.text ++ "/" ++ name⟩ := by
  obtain ⟨character, last⟩ : ∃ character, path.text.toList.getLast? = some character := by
    rw [← Option.isSome_iff_exists, List.getLast?_isSome]
    simpa using spells.text_ne
  have first : name.toList.head? ≠ some '/' := fun head => noSlash (List.mem_of_head? head)
  have inside := spells.getLast_ne named last
  unfold Path.join
  rw [last]
  split
  · exact absurd (by assumption) first
  · simp_all
  · simp_all
  · rfl

/-- A plain name below a location is spelled by the joined path. -/
theorem Spells.join {path : Path} {location : Location} (spells : path.Spells location)
    (named : location ≠ []) {name : String} (noSlash : '/' ∉ name.toList)
    (plain : isTrivial name.toList = false ∧ name.toList ≠ upward) :
    (path.join name).Spells (location ++ [name.toList]) := by
  rw [spells.join_eq named noSlash]
  refine ⟨?_, ?_, ?_⟩
  · have absolute := spells.absolute
    unfold isAbsolute at absolute ⊢
    rw [decide_eq_true_eq] at absolute ⊢
    simp [absolute]
  · have split : (path.text ++ "/" ++ name).toList =
        path.text.toList ++ '/' :: name.toList := by simp
    change (path.text ++ "/" ++ name).toList.splitOn '/' = _
    rw [split, List.splitOn_append_cons_self, List.splitOn_eq_singleton noSlash]
    exact congrArg (· ++ [name.toList]) spells.parts_eq
  · intro other member
    rcases List.mem_append.mp member with above | equal
    · exact spells.plain other above
    · rw [List.mem_singleton.mp equal]
      exact plain

theorem dropTrivialEnd_concat (parts : List (List Char)) {part : List Char}
    (plain : isTrivial part = false) : dropTrivialEnd (parts ++ [part]) = parts ++ [part] := by
  simp [dropTrivialEnd, plain]

/-- The text of a path is made of the names that it spells. -/
theorem Spells.assemble_eq {path : Path} {location : Location} (spells : path.Spells location)
    (named : location ≠ []) : assemble .root location = path := by
  have whole : path.text.toList = '/' :: ['/'].intercalate location := by
    have parts := congrArg (List.intercalate ['/']) spells.parts_eq
    rw [Path.parts, List.intercalate_splitOn] at parts
    obtain ⟨first, later, rfl⟩ := List.exists_cons_of_ne_nil named
    simpa [List.intercalate] using parts
  rw [assemble, ← whole, String.ofList_toList]

/-- The directory of a file is the path that its name was joined to. -/
theorem Spells.parent_join {path : Path} {location : Location} (spells : path.Spells location)
    (named : location ≠ []) {name : String} (noSlash : '/' ∉ name.toList)
    (plain : isTrivial name.toList = false ∧ name.toList ≠ upward) :
    (path.join name).parent? = some path := by
  have joined := spells.join named noSlash plain
  have begins : (path.join name).anchored = (.root, location ++ [name.toList]) := by
    rw [anchored, joined.parts_eq]
    exact if_pos joined.absolute
  have shortened : dropTrivialEnd location = location := by
    have last := spells.plain (location.getLast named) (List.getLast_mem named)
    rw [← List.dropLast_append_getLast named]
    exact dropTrivialEnd_concat _ last.1
  rw [parent?, begins]
  dsimp only
  rw [dropTrivialEnd_concat _ plain.1]
  split
  · rename_i none
    exact absurd none (by simp)
  · rw [List.dropLast_concat, shortened, spells.assemble_eq named]

end Path

namespace FileTree

/-- The tree has an entry at a location and directories all the way to it. -/
structure Holds (tree : FileTree) (location : Location) : Prop where
  above : ∀ above, above <+: location → above ≠ location → tree.entry? above = some .directory
  present : (tree.entry? location).isSome

/-! ## Entries -/

/-- Looking up a location among the entries kept by their keys finds it exactly when its key is
kept. -/
private theorem lookup_filter_keys (keep : Location → Bool) (entries : List (Location × Entry))
    (location : Location) :
    (entries.filter fun held => keep held.1).lookup location =
      if keep location then entries.lookup location else none := by
  induction entries with
  | nil => simp
  | cons held entries ih =>
      obtain ⟨key, entry⟩ := held
      by_cases same : location = key
      · subst same
        by_cases kept : keep location <;> simp [kept, ih]
      · have differs : (location == key) = false := by simpa using same
        by_cases kept : keep key <;> simp [kept, ih, List.lookup_cons, differs]

theorem entry_root (tree : FileTree) : tree.entry? [] = some .directory := rfl

/-- After a put, the place put has the new entry and every other location the one it had. -/
theorem entry_put (tree : FileTree) (location other : Location) (entry : Entry) :
    entry? (tree.put location entry) other =
      if other = [] then some .directory
      else if other = location then some entry else tree.entry? other := by
  unfold entry? put
  by_cases root : other = []
  · simp [root]
  · by_cases same : other = location
    · simp [same]
    · have differs : (other == location) = false := by simpa using same
      have rest := lookup_filter_keys (fun key => !decide (key = location)) tree.entries other
      simp only [same, decide_false, Bool.not_false, ↓reduceIte] at rest
      simp [root, same, List.lookup_cons, differs, rest]

/-- After a subtree is removed, the locations below its top have no entry and the others keep
theirs. -/
theorem entry_removeTree (tree : FileTree) (location other : Location) :
    entry? (tree.removeTree location) other =
      if other = [] then some .directory
      else if location <+: other then none else tree.entry? other := by
  have rest := lookup_filter_keys (fun key => !location.isPrefixOf key) tree.entries other
  unfold entry? removeTree
  by_cases root : other = []
  · simp [root]
  · by_cases below : location <+: other
    · simp only [List.isPrefixOf_iff_prefix.mpr below, Bool.not_true, Bool.false_eq_true,
        ↓reduceIte] at rest
      simp [root, below, rest]
    · have outside : location.isPrefixOf other = false :=
        Bool.eq_false_iff.mpr fun yes => below (List.isPrefixOf_iff_prefix.mp yes)
      simp only [outside, Bool.not_false, ↓reduceIte] at rest
      simp [root, below, rest]

/-! ## Resolution -/

/-- Following plain names leads to the location they spell, through directories. -/
theorem walk_eq_ok_iff (tree : FileTree) {names : List (List Char)}
    (plain : ∀ name ∈ names, Path.isTrivial name = false ∧ name ≠ Path.upward)
    (start reached : Location) :
    tree.walk start names = .ok reached ↔
      reached = start ++ names ∧
        (∀ above, above <+: names → above ≠ names →
          tree.entry? (start ++ above) = some .directory) ∧
        ∀ name ∈ names, (String.ofList name).utf8ByteSize ≤ nameLimit := by
  induction names generalizing start with
  | nil => simp [walk, eq_comm]
  | cons name names ih =>
      have here := plain name List.mem_cons_self
      have later := ih (fun other member => plain other (List.mem_cons_of_mem name member))
      rcases held : tree.entry? start with _ | entry
      · simp only [walk, held, reduceCtorEq, false_iff]
        rintro ⟨-, directories, -⟩
        simpa [held] using directories [] List.nil_prefix (by simp)
      · cases entry with
        | file contents =>
            simp only [walk, held, reduceCtorEq, false_iff]
            rintro ⟨-, directories, -⟩
            simpa [held] using directories [] List.nil_prefix (by simp)
        | directory =>
            by_cases long : nameLimit < (String.ofList name).utf8ByteSize
            · simp only [walk, held, here.1, here.2, long, Bool.false_eq_true, ↓reduceIte,
                reduceCtorEq, false_iff]
              rintro ⟨-, -, short⟩
              exact absurd (short name List.mem_cons_self) (Nat.not_le.mpr long)
            · simp only [walk, held, here.1, here.2, long, Bool.false_eq_true, ↓reduceIte,
                later (start ++ [name]), List.append_assoc, List.singleton_append]
              constructor
              · rintro ⟨equal, directories, short⟩
                refine ⟨equal, ?_, ?_⟩
                · intro above begins differs
                  rcases List.prefix_cons_iff.mp begins with rfl | ⟨rest, rfl, below⟩
                  · simpa using held
                  · simpa using directories rest below fun same => differs (same ▸ rfl)
                · intro other member
                  rcases List.mem_cons.mp member with rfl | member
                  · exact Nat.not_lt.mp long
                  · exact short other member
              · rintro ⟨equal, directories, short⟩
                refine ⟨equal, ?_, fun other member => short other (List.mem_cons_of_mem _ member)⟩
                intro above begins differs
                have held := directories (name :: above) (by simpa using begins)
                  (by simpa using differs)
                simpa using held

/-- A path resolves when its text is free of null characters, non-empty and short enough, and its
parts can be walked from where it starts. -/
theorem resolve_eq_ok {tree : FileTree} {path : Path} {reached : Location} :
    tree.resolve path = .ok reached ↔
      Char.ofNat 0 ∉ path.text.toList ∧ path.text ≠ "" ∧ path.text.utf8ByteSize ≤ pathLimit ∧
        tree.walk (if path.isAbsolute then [] else tree.workingDirectory) path.parts =
          .ok reached := by
  unfold resolve
  split
  · rename_i nul
    rw [List.contains_iff_mem] at nul
    exact iff_of_false (by simp) fun all => all.1 nul
  · rename_i noNul
    rw [List.contains_iff_mem] at noNul
    split
    · rename_i empty
      simp [empty]
    · rename_i named
      split
      · rename_i long
        refine iff_of_false (by simp) ?_
        rintro ⟨-, -, short, -⟩
        exact absurd short (Nat.not_le.mpr long)
      · rename_i short
        exact ⟨fun walks => ⟨noNul, named, Nat.not_lt.mp short, walks⟩, fun all => all.2.2.2⟩

/-- A path that spells a location resolves to it or not at all. -/
theorem resolve_eq_ok_iff (tree : FileTree) {path : Path} {location : Location}
    (spells : path.Spells location) (reached : Location) :
    tree.resolve path = .ok reached ↔
      reached = location ∧ path.Allowed location ∧
        ∀ above, above <+: location → above ≠ location → tree.entry? above = some .directory := by
  have walks := tree.walk_eq_ok_iff spells.plain [] reached
  have begins : tree.walk [] ([] :: location) = tree.walk [] location := by
    simp [walk, entry_root, Path.isTrivial]
  unfold resolve
  rw [spells.parts_eq, spells.absolute, if_pos rfl, begins, if_neg spells.text_ne]
  split
  · rename_i nul
    simp only [reduceCtorEq, false_iff]
    rintro ⟨-, allowed, -⟩
    simp only [allowed.noNul, Bool.false_eq_true] at nul
  · rename_i noNul
    split
    · rename_i long
      simp only [reduceCtorEq, false_iff]
      rintro ⟨-, allowed, -⟩
      exact absurd allowed.length_le (Nat.not_le.mpr long)
    · rename_i short
      rw [walks, List.nil_append]
      constructor
      · rintro ⟨equal, directories, names⟩
        exact ⟨equal, ⟨by simpa using noNul, Nat.not_lt.mp short, names⟩, directories⟩
      · rintro ⟨equal, allowed, directories⟩
        exact ⟨equal, directories, allowed.name_le⟩

/-- A path that spells a location denotes something when the tree holds the location. -/
theorem contains_iff_holds (tree : FileTree) {path : Path} {location : Location}
    (spells : path.Spells location) :
    tree.contains path = true ↔ path.Allowed location ∧ tree.Holds location := by
  have resolves := tree.resolve_eq_ok_iff spells
  unfold contains find?
  rcases resolved : tree.resolve path with fault | reached
  · simp only [Option.isSome_none, Bool.false_eq_true, false_iff]
    rintro ⟨allowed, holds⟩
    have reaches := (resolves location).mpr ⟨rfl, allowed, holds.above⟩
    simp [resolved] at reaches
  · obtain ⟨rfl, allowed, directories⟩ := (resolves reached).mp resolved
    exact ⟨fun present => ⟨allowed, directories, present⟩, fun ⟨_, holds⟩ => holds.present⟩

/-- A file that can be read is there. -/
theorem contains_of_read {tree : FileTree} {path : Path} {contents : Bytes}
    (found : tree.read path = .ok contents) : tree.contains path = true := by
  unfold read at found
  unfold contains find?
  split at found
  · cases found
  · rename_i location resolved
    rw [resolved]
    rcases held : tree.entry? location with _ | entry
    · simp [held] at found
    · simp [held]

/-! ## What a tree holds after an operation -/

/-- All that is above a location is there with it. -/
theorem Holds.entry_above {tree : FileTree} {location above : Location}
    (holds : tree.Holds location) (isAbove : above <+: location) :
    (tree.entry? above).isSome := by
  by_cases same : above = location
  · exact same ▸ holds.present
  · simp [holds.above above isAbove same]

/-- An entry put in a tree leaves what was held, unless a file replaces a directory. -/
theorem Holds.put {tree : FileTree} {location place : Location} (holds : tree.Holds location)
    {entry : Entry} (fits : tree.entry? place = some .directory → entry = .directory) :
    (tree.put place entry).Holds location := by
  constructor
  · intro above isAbove differs
    have directory := holds.above above isAbove differs
    rw [entry_put]
    split
    · rfl
    · split
      · rename_i same
        rw [fits (same ▸ directory)]
      · exact directory
  · rw [entry_put]
    split
    · rfl
    · split
      · rfl
      · exact holds.present

/-- Removing a location leaves what is not below it. -/
theorem Holds.removeTree {tree : FileTree} {location place : Location}
    (holds : tree.Holds location) (outside : ¬ place <+: location) :
    (tree.removeTree place).Holds location := by
  constructor
  · intro above isAbove differs
    rw [entry_removeTree]
    split
    · rfl
    · rw [if_neg fun below => outside (below.trans isAbove)]
      exact holds.above above isAbove differs
  · rw [entry_removeTree]
    split
    · rfl
    · exact holds.present

/-- Nothing is left at a location that was removed, nor below it. -/
theorem not_holds_removeTree (tree : FileTree) {location place : Location} (named : place ≠ [])
    (below : place <+: location) : ¬ (tree.removeTree place).Holds location := by
  intro holds
  have present := holds.present
  rw [entry_removeTree, if_neg (below.ne_nil named), if_pos below] at present
  simp at present

/-- What a path denotes is gone when it was removed. -/
theorem contains_removeAll (tree : FileTree) {path : Path} {location : Location}
    (spells : path.Spells location) (named : location ≠ []) :
    (tree.removeAll path).contains path = false := by
  rw [Bool.eq_false_iff, ne_eq, contains_iff_holds _ spells]
  rintro ⟨allowed, holds⟩
  unfold removeAll at holds
  rcases resolved : tree.resolve path with fault | reached <;> rw [resolved] at holds
  · have reaches := (tree.resolve_eq_ok_iff spells location).mpr ⟨rfl, allowed, holds.above⟩
    simp [resolved] at reaches
  · obtain ⟨rfl, -, -⟩ := (tree.resolve_eq_ok_iff spells reached).mp resolved
    exact tree.not_holds_removeTree named (List.prefix_refl reached) holds

/-- Removing what a path denotes leaves what is not below it. -/
theorem Holds.removeAll {tree : FileTree} {location place : Location} {path : Path}
    (holds : tree.Holds location) (spells : path.Spells place)
    (outside : ¬ place <+: location) : (tree.removeAll path).Holds location := by
  unfold FileTree.removeAll
  rcases resolved : tree.resolve path with fault | reached
  · exact holds
  · obtain ⟨rfl, -, -⟩ := (tree.resolve_eq_ok_iff spells reached).mp resolved
    exact holds.removeTree outside

/-- Removing what a path denotes leaves all that is not below it as it was. -/
theorem entry_removeAll (tree : FileTree) {path : Path} {place location : Location}
    (spells : path.Spells place) (outside : ¬ place <+: location) :
    entry? (tree.removeAll path) location = tree.entry? location := by
  unfold removeAll
  rcases resolved : tree.resolve path with fault | reached
  · rfl
  · obtain ⟨rfl, -, -⟩ := (tree.resolve_eq_ok_iff spells reached).mp resolved
    dsimp only
    rw [entry_removeTree, if_neg outside]
    split
    · rename_i root
      rw [root, entry_root]
    · rfl

/-- What writing a file does: the path leads to a place without a directory, where the contents
are put. -/
theorem write_ok {tree written : FileTree} {path : Path} {contents : Bytes}
    (writes : tree.write path contents = .ok written) :
    ∃ location, tree.resolve path = .ok location ∧ tree.entry? location ≠ some .directory ∧
      written = tree.put location (.file contents) := by
  unfold write at writes
  dsimp only at writes
  split at writes
  · rcases resolved : tree.resolve path with fault | location <;> rw [resolved] at writes
    · cases writes
    · dsimp only at writes
      split at writes
      · cases writes
      · rename_i isFile
        cases writes
        exact ⟨location, rfl, isFile, rfl⟩
  · split at writes
    · cases writes
    · split at writes <;> cases writes

/-- A file is written to the place that its path spells, unless that is a directory. -/
theorem write_spelled {tree : FileTree} {path : Path} {location : Location}
    (spells : path.Spells location) (named : location ≠ [])
    (resolves : tree.resolve path = .ok location) (contents : Bytes) :
    tree.write path contents =
      if tree.entry? location = some .directory then .error .isADirectory
      else .ok (tree.put location (.file contents)) := by
  unfold write
  dsimp only
  rw [if_pos (spells.withoutEndSlashes named), resolves]
  dsimp only
  split
  · rename_i directory
    rw [if_pos directory]
  · rename_i free
    rw [if_neg free]

/-- Writing a file keeps the locations that hold. -/
theorem Holds.write {tree written : FileTree} {location : Location} {path : Path}
    {contents : Bytes} (holds : tree.Holds location)
    (writes : tree.write path contents = .ok written) : written.Holds location := by
  obtain ⟨place, -, isFile, rfl⟩ := write_ok writes
  exact holds.put fun directory => absurd directory isFile

/-- What making a directory does: the path leads to a vacant place, where the directory is put. -/
theorem makeDirectory_ok {tree made : FileTree} {path : Path}
    (makes : tree.makeDirectory path = .ok made) :
    ∃ location, tree.resolve (withoutEndSlashes path) = .ok location ∧
      tree.entry? location = none ∧ made = tree.put location .directory := by
  unfold makeDirectory at makes
  split at makes
  · cases makes
  · rename_i location resolves
    split at makes
    · cases makes
    · rename_i vacant
      cases makes
      exact ⟨location, resolves, vacant, rfl⟩

/-- A directory is made at the place that its path spells. -/
theorem makeDirectory_spelled {tree made : FileTree} {path : Path} {location : Location}
    (spells : path.Spells location) (named : location ≠ [])
    (makes : tree.makeDirectory path = .ok made) :
    tree.resolve path = .ok location ∧ tree.entry? location = none ∧
      made = tree.put location .directory := by
  obtain ⟨reached, resolves, vacant, rfl⟩ := makeDirectory_ok makes
  rw [spells.withoutEndSlashes named] at resolves
  obtain ⟨rfl, -, -⟩ := (tree.resolve_eq_ok_iff spells reached).mp resolves
  exact ⟨resolves, vacant, rfl⟩

/-- What making the directories up to a path does: it finds the directory, makes it alone, or makes
those up to the parent first and then finds it or makes it. -/
theorem makeDirectoriesWithin_ok {fuel : Nat} {tree made : FileTree} {path : Path}
    (makes : makeDirectoriesWithin (fuel + 1) tree path = .ok made) :
    made = tree ∧ (path.text = "" ∨ tree.isDirectory path = true) ∨
      tree.makeDirectory path = .ok made ∨
      ∃ parent grown, tree.makeDirectory path = .error .notFound ∧ path.parent? = some parent ∧
        makeDirectoriesWithin fuel tree parent = .ok grown ∧
        (made = grown ∧ grown.isDirectory path = true ∨ grown.makeDirectory path = .ok made) := by
  rw [makeDirectoriesWithin] at makes
  split at makes
  · rename_i empty
    cases makes
    exact .inl ⟨rfl, .inl empty⟩
  · split at makes
    · rename_i one
      cases makes
      exact .inr (.inl one)
    · rename_i notFound
      split at makes
      · cases makes
      · rename_i parent isParent
        split at makes
        · cases makes
        · rename_i grown above
          refine .inr (.inr ⟨parent, grown, notFound, isParent, above, ?_⟩)
          split at makes
          · rename_i one
            cases makes
            exact .inr one
          · split at makes
            · rename_i there
              cases makes
              exact .inl ⟨rfl, there⟩
            · cases makes
    · split at makes
      · rename_i there
        cases makes
        exact .inl ⟨rfl, .inr there⟩
      · cases makes

/-- Making a directory keeps the locations that hold. -/
theorem Holds.makeDirectory {tree made : FileTree} {location : Location} {path : Path}
    (holds : tree.Holds location) (makes : tree.makeDirectory path = .ok made) :
    made.Holds location := by
  obtain ⟨place, -, -, rfl⟩ := makeDirectory_ok makes
  exact holds.put fun _ => rfl

/-- Making parents one by one keeps the locations that hold. -/
theorem Holds.makeDirectoriesWithin {fuel : Nat} {tree made : FileTree} {location : Location}
    {path : Path} (holds : tree.Holds location)
    (makes : makeDirectoriesWithin fuel tree path = .ok made) : made.Holds location := by
  induction fuel generalizing path made with
  | zero =>
      cases makes
      exact holds
  | succ fuel ih =>
      rcases makeDirectoriesWithin_ok makes with
        ⟨rfl, -⟩ | one | ⟨parent, grown, -, -, above, ⟨rfl, -⟩ | one⟩
      · exact holds
      · exact holds.makeDirectory one
      · exact ih above
      · exact (ih above).makeDirectory one

/-! ## Temporary directories -/

def temporaryLocation (stem : String) (number : Nat) : Location :=
  temporaryRoot ++ [stem.toList ++ (toString number).toList]

theorem temporaryLocation_ne (stem : String) (number : Nat) :
    temporaryLocation stem number ≠ [] := by
  simp [temporaryLocation]

/-- The path of a temporary directory spells its location. -/
theorem spells_temporary {stem : String} (noSlash : '/' ∉ stem.toList) (number : Nat) :
    (temporaryPath stem number).Spells (temporaryLocation stem number) := by
  have digits : (toString number).toList = Nat.toDigits 10 number := by
    rw [Nat.toString_eq_repr, Nat.toList_repr]
  have isDigit : ∀ character ∈ (toString number).toList, character.isDigit := by
    intro character member
    exact Nat.isDigit_of_mem_toDigits (by decide) (by decide) (digits ▸ member)
  have noSlashes : '/' ∉ stem.toList ++ (toString number).toList := by
    rw [List.mem_append]
    rintro (inStem | inNumber)
    · exact noSlash inStem
    · exact absurd (isDigit _ inNumber) (by decide)
  have spelled : (temporaryPath stem number).text.toList =
      [] ++ '/' :: ("tmp".toList ++ '/' :: (stem.toList ++ (toString number).toList)) := by
    simp [temporaryPath]
  refine ⟨?_, ?_, ?_⟩
  · simp [Path.isAbsolute, spelled]
  · rw [Path.parts, spelled, List.splitOn_append_cons_self, List.splitOn_append_cons_self,
      List.splitOn_eq_singleton noSlashes]
    rfl
  · intro name member
    rcases List.mem_append.mp member with above | named
    · rw [List.mem_singleton.mp above]
      decide
    · obtain ⟨digit, inDigits⟩ : ∃ digit, digit ∈ (toString number).toList :=
        List.exists_mem_of_ne_nil _ (digits ▸ Nat.toDigits_ne_nil)
      have noDot : digit ≠ '.' := by
        rintro rfl
        exact absurd (isDigit _ inDigits) (by decide)
      rw [List.mem_singleton.mp named]
      exact Path.plain_of_mem (List.mem_append_right _ inDigits) noDot

/-- A temporary location above a place inside another one is that other one. -/
theorem temporaryPath_of_prefix {stem other : String} {number count : Nat} {names : Location}
    (below : temporaryLocation stem number <+: temporaryLocation other count ++ names) :
    temporaryPath stem number = temporaryPath other count := by
  have same : temporaryLocation stem number = temporaryLocation other count := by
    refine List.IsPrefix.eq_of_length (List.prefix_of_prefix_length_le below
      (List.prefix_append _ _) ?_) ?_ <;> simp [temporaryLocation]
  have name : stem.toList ++ (toString number).toList =
      other.toList ++ (toString count).toList := by
    simpa [temporaryLocation] using same
  have text : stem ++ toString number = other ++ toString count := by
    rw [← String.toList_inj, String.toList_append, String.toList_append, name]
  rw [temporaryPath, temporaryPath, String.append_assoc, text, String.append_assoc]

/-- A temporary directory is made at a path that is not used for another one. -/
theorem makeDirectory_of_makeTemporary {tree made : FileTree} {stem : String} {path : Path}
    (makes : tree.makeTemporary stem = .ok (path, made)) :
    path = temporaryPath stem tree.temporaries ∧
      makeDirectory { tree with temporaries := tree.temporaries + 1 } path = .ok made := by
  rcases makesOne : makeDirectory { tree with temporaries := tree.temporaries + 1 }
    (temporaryPath stem tree.temporaries) with fault | grown
  · simp [makeTemporary, makesOne, Except.map] at makes
  · simp only [makeTemporary, makesOne, Except.map, Except.ok.injEq, Prod.mk.injEq] at makes
    obtain ⟨rfl, rfl⟩ := makes
    exact ⟨rfl, makesOne⟩

/-- A temporary directory is made where nothing was before. -/
theorem makeTemporary_ok {tree made : FileTree} {stem : String} (noSlash : '/' ∉ stem.toList)
    {path : Path} (makes : tree.makeTemporary stem = .ok (path, made)) :
    path = temporaryPath stem tree.temporaries ∧
      tree.entry? (temporaryLocation stem tree.temporaries) = none ∧
      made = { tree with temporaries := tree.temporaries + 1 }.put
        (temporaryLocation stem tree.temporaries) .directory := by
  obtain ⟨rfl, makesOne⟩ := makeDirectory_of_makeTemporary makes
  obtain ⟨-, absent, made_eq⟩ := makeDirectory_spelled (spells_temporary noSlash tree.temporaries)
    (temporaryLocation_ne stem tree.temporaries) makesOne
  exact ⟨rfl, absent, made_eq⟩

/-- Nothing is at the place that a directory's path spells. -/
def Vacant (tree : FileTree) (directory : Path) : Prop :=
  ∃ location, directory.Spells location ∧ tree.entry? location = none

/-- A temporary directory was not there before. -/
theorem vacant_of_makeTemporary {tree made : FileTree} {stem : String}
    (noSlash : '/' ∉ stem.toList) {directory : Path}
    (makes : tree.makeTemporary stem = .ok (directory, made)) : tree.Vacant directory := by
  obtain ⟨rfl, absent, -⟩ := makeTemporary_ok noSlash makes
  exact ⟨_, spells_temporary noSlash _, absent⟩

/-- A vacant directory has no entry. -/
theorem Vacant.entry_eq_none {tree : FileTree} {directory : Path} {place : Location}
    (vacant : tree.Vacant directory) (spells : directory.Spells place) :
    tree.entry? place = none := by
  obtain ⟨other, spelled, absent⟩ := vacant
  have same := spelled.parts_eq.symm.trans spells.parts_eq
  rw [← (List.cons.inj same).2]
  exact absent

/-- Removing a directory that was not there before leaves what was there before. -/
theorem Vacant.contains_removeAll {before after : FileTree} {directory path : Path}
    {location : Location} (vacant : before.Vacant directory) (spells : path.Spells location)
    (present : before.contains path = true) (kept : after.contains path = true) :
    (after.removeAll directory).contains path = true := by
  obtain ⟨place, placed, absent⟩ := vacant
  have held := ((contains_iff_holds _ spells).mp present).2
  have outside : ¬ place <+: location := fun below => by
    simpa [absent] using held.entry_above below
  obtain ⟨allowed, stays⟩ := (contains_iff_holds _ spells).mp kept
  exact (contains_iff_holds _ spells).mpr ⟨allowed, stays.removeAll placed outside⟩

end FileTree

end MicroDevice
