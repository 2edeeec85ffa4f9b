import MicroDevice.Proofs.Files.Beside
import MicroDevice.Proofs.Files.Contents
import MicroDevice.Proofs.Session.Creation

/-! # Exporting a module

A module may be exported if its name can be that of a file in a directory. Its source is then
written to a file of that name beside the library, whatever path leads to the library, and nothing
else is written before the export step is asked for the library
(`SourceModule.exports_beside_library`). A name with a part that leads elsewhere is refused before
anything is done.
-/

namespace MicroDevice

namespace Path

/-- A text without slashes has the component of its only part. -/
theorem components_of_noSlash {name : String} (noSlash : '/' ∉ name.toList) :
    components ⟨name⟩ =
      if name = "" then [] else if name = "." then [.current]
      else if name = ".." then [.upward] else [.normal name.toList] := by
  have parts : Path.parts ⟨name⟩ = [name.toList] := List.splitOn_eq_singleton noSlash
  have text (other : String) : name.toList = other.toList ↔ name = other := String.toList_inj
  by_cases empty : name = ""
  · subst empty
    decide
  by_cases dot : name = "."
  · subst dot
    decide
  have anchored_eq : anchored ⟨name⟩ = (.unmarked, [name.toList]) := by
    unfold anchored
    rw [parts]
    split
    · rename_i same
      exact absurd ((text "").mp (List.cons.inj same).1) empty
    · rename_i same
      exact absurd ((text ".").mp (List.cons.inj same).1) dot
    · rfl
  have named : isTrivial name.toList = false := by
    have notEmpty : name.toList ≠ [] := fun same => empty ((text "").mp same)
    have notDot : name.toList ≠ ['.'] := fun same => dot ((text ".").mp same)
    simp [isTrivial, notEmpty, notDot]
  rw [components, anchored_eq, if_neg empty, if_neg dot]
  by_cases twoDots : name = ".."
  · subst twoDots
    rfl
  · have notUpward : name.toList ≠ upward := fun same => twoDots ((text "..").mp same)
    simp [Anchor.component?, partComponent?, named, notUpward, twoDots]

/-- A name without slashes is joined after a slash, unless it is joined to the empty path. The
slash is the last one of a path that ends in one. -/
theorem join_cases {name : String} (noSlash : '/' ∉ name.toList) (directory : Path) :
    (directory.text = "" ∧ directory.join name = ⟨name⟩) ∨
      (directory.text ≠ "" ∧ directory.join name = ⟨directory.text ++ "/" ++ name⟩) ∨
      ∃ front, directory.join name = ⟨directory.text ++ name⟩ ∧
        directory.text.toList = front ++ ['/'] := by
  have first : name.toList.head? ≠ some '/' := fun head => noSlash (List.mem_of_head? head)
  unfold Path.join
  split
  · exact absurd (by assumption) first
  · rename_i none _
    exact .inl ⟨by simpa using none, rfl⟩
  · rename_i ended _
    obtain ⟨front, split⟩ := List.getLast?_eq_some_iff.mp ended
    exact .inr (.inr ⟨front, rfl, split⟩)
  · rename_i ended _
    refine .inr (.inl ⟨fun empty => ?_, rfl⟩)
    simp [empty] at ended

end Path

/-- A name that is not empty, is neither of the two dots, and has no slash of either kind. -/
structure PlainName (name : String) : Prop where
  notEmpty : name ≠ ""
  notDot : name ≠ "."
  notUpward : name ≠ ".."
  noSlash : '/' ∉ name.toList
  noBackslash : '\\' ∉ name.toList

/-- A name has one normal component and no slash of either kind just if it is plain. -/
theorem SourceModule.isPlainName_iff (name : String) :
    SourceModule.isPlainName name = true ↔ PlainName name := by
  unfold isPlainName
  by_cases slash : '/' ∈ name.toList
  · have refused : ¬ PlainName name := fun plain => plain.noSlash slash
    split <;> simp [slash, refused]
  · rw [Path.components_of_noSlash slash]
    by_cases empty : name = ""
    · exact iff_of_false (by simp [empty]) fun plain => plain.notEmpty empty
    by_cases dot : name = "."
    · exact iff_of_false (by simp [dot]) fun plain => plain.notDot dot
    by_cases twoDots : name = ".."
    · exact iff_of_false (by simp [twoDots]) fun plain => plain.notUpward twoDots
    · rw [if_neg empty, if_neg dot, if_neg twoDots]
      constructor
      · intro accepted
        exact ⟨empty, dot, twoDots, slash, by simpa [slash] using accepted⟩
      · intro plain
        simp [slash, plain.noBackslash]

namespace FileTree

variable {tree : FileTree} {directory : Path}

/-- The location that a directory is at. The empty path denotes the working directory. -/
def locate (tree : FileTree) (directory : Path) : Except IoFault Location :=
  if directory.text = "" then .ok tree.workingDirectory else tree.resolve directory

/-- One file is put into a tree, and nothing else is changed. -/
structure PutsFile (tree : FileTree) (place : Location) (contents : Bytes) (written : FileTree) :
    Prop where
  file : written.entry? place = some (.file contents)
  others : ∀ location, location ≠ place → written.entry? location = tree.entry? location
  workingDirectory_eq : written.workingDirectory = tree.workingDirectory
  temporaries_eq : written.temporaries = tree.temporaries

/-- Following parts leads through the place that the first of them lead to. -/
theorem walk_append (tree : FileTree) (first later : List (List Char)) (start : Location) :
    tree.walk start (first ++ later) =
      (tree.walk start first).bind fun place => tree.walk place later := by
  induction first generalizing start with
  | nil => rfl
  | cons part parts ih =>
      rw [List.cons_append, walk, walk, ih, ih, ih]
      rcases tree.entry? start with _ | ⟨_ | contents⟩
      · rfl
      · dsimp only
        split_ifs <;> rfl
      · rfl

/-- A plain name is followed into a directory. -/
theorem walk_plain {name : List Char} {place reached : Location}
    (plain : Path.isTrivial name = false ∧ name ≠ Path.upward)
    (walks : tree.walk place [name] = .ok reached) :
    tree.entry? place = some .directory ∧ reached = place ++ [name] := by
  have names : ∀ other ∈ [name], Path.isTrivial other = false ∧ other ≠ Path.upward :=
    List.forall_mem_singleton.mpr plain
  obtain ⟨reached_eq, directories, -⟩ := (tree.walk_eq_ok_iff names place reached).mp walks
  have isDirectory := directories [] List.nil_prefix (List.cons_ne_nil _ _).symm
  rw [List.append_nil] at isDirectory
  exact ⟨isDirectory, reached_eq⟩

/-- A path whose text goes on after a directory leads through the directory, if so do its parts. -/
theorem resolve_of_append {path : Path} {more : String} {lead later : List (List Char)}
    {reached : Location} (named : directory.text ≠ "") (text : path.text = directory.text ++ more)
    (parts : path.parts = lead ++ later) (resolves : tree.resolve path = .ok reached) :
    ∃ place,
      tree.walk (if directory.isAbsolute then [] else tree.workingDirectory) lead = .ok place ∧
      tree.walk place later = .ok reached ∧
      (tree.walk (if directory.isAbsolute then [] else tree.workingDirectory) directory.parts =
        .ok place → tree.resolve directory = .ok place) := by
  obtain ⟨noNul, -, short, walks⟩ := resolve_eq_ok.mp resolves
  have absolute : path.isAbsolute = directory.isAbsolute := by
    have some : directory.text.toList ≠ [] := by simpa using named
    rw [Path.isAbsolute, Path.isAbsolute, text, String.toList_append,
      List.head?_append_of_ne_nil _ some]
  rw [parts, walk_append, absolute] at walks
  rw [text, String.toList_append, List.mem_append, not_or] at noNul
  rw [text, String.utf8ByteSize_append] at short
  rcases leads : tree.walk (if directory.isAbsolute then [] else tree.workingDirectory) lead with
    fault | place <;> rw [leads] at walks
  · cases walks
  · refine ⟨place, rfl, walks, fun found => ?_⟩
    exact resolve_eq_ok.mpr ⟨noNul.1, named, by omega, found⟩

/-- A name joined to a path leads into the directory that the path denotes. -/
theorem resolve_join {name : String} (noSlash : '/' ∉ name.toList)
    (plain : Path.isTrivial name.toList = false ∧ name.toList ≠ Path.upward) {reached : Location}
    (resolves : tree.resolve (directory.join name) = .ok reached) :
    ∃ place, tree.locate directory = .ok place ∧ tree.entry? place = some .directory ∧
      reached = place ++ [name.toList] := by
  have last : name.toList.splitOn '/' = [name.toList] := List.splitOn_eq_singleton noSlash
  rcases directory.join_cases noSlash with
    ⟨empty, joined⟩ | ⟨named, joined⟩ | ⟨front, joined, begins⟩ <;>
    rw [joined] at resolves
  · obtain ⟨-, -, -, walks⟩ := resolve_eq_ok.mp resolves
    have relative : Path.isAbsolute ⟨name⟩ = false := by
      rw [Path.isAbsolute, decide_eq_false_iff_not]
      exact fun head => noSlash (List.mem_of_head? head)
    rw [relative, Path.parts, last] at walks
    exact ⟨tree.workingDirectory, if_pos empty, walk_plain plain walks⟩
  · rw [String.append_assoc] at resolves
    have parts : Path.parts ⟨directory.text ++ ("/" ++ name)⟩ =
        directory.parts ++ [name.toList] := by
      have split : (directory.text ++ ("/" ++ name)).toList =
          directory.text.toList ++ '/' :: name.toList := by simp
      rw [Path.parts, split, List.splitOn_append_cons_self, last]
      rfl
    obtain ⟨place, leads, walks, found⟩ := resolve_of_append named rfl parts resolves
    rw [locate, if_neg named]
    exact ⟨place, found leads, walk_plain plain walks⟩
  · have named : directory.text ≠ "" := by
      intro empty
      simp [empty] at begins
    have parts : Path.parts ⟨directory.text ++ name⟩ = front.splitOn '/' ++ [name.toList] := by
      rw [Path.parts, String.toList_append, begins, List.append_assoc, List.singleton_append,
        List.splitOn_append_cons_self, last]
    obtain ⟨place, leads, walks, found⟩ := resolve_of_append named rfl parts resolves
    obtain ⟨isDirectory, reached_eq⟩ := walk_plain plain walks
    rw [locate, if_neg named]
    refine ⟨place, found ?_, isDirectory, reached_eq⟩
    -- the slash at the end of the directory makes no difference
    rw [Path.parts, begins, List.splitOn_append_cons_self, walk_append, leads]
    change tree.walk place [[]] = .ok place
    rw [walk, isDirectory]
    rfl

/-- Writing a file puts it into the tree and changes nothing else. -/
theorem putsFile_write {written : FileTree} {path : Path} {contents : Bytes} {place : Location}
    (resolves : tree.resolve path = .ok place)
    (writes : tree.write path contents = .ok written) :
    tree.PutsFile place contents written := by
  obtain ⟨location, found, isFile, rfl⟩ := write_ok writes
  cases found.symm.trans resolves
  have named : place ≠ [] := by
    rintro rfl
    exact isFile tree.entry_root
  refine ⟨?_, fun location differs => tree.entry_put_of_ne differs _, rfl, rfl⟩
  rw [entry_put, if_neg named, if_pos rfl]

end FileTree

namespace SourceModule

/-- The file name of the source of a module. -/
def fileName (module : SourceModule) : String :=
  module.name ++ ".c"

/-- The directory of a library: that of its path, or the current one if the path has none. -/
def libraryDirectory (library : Path) : Path :=
  library.parent?.getD ⟨"."⟩

/-- The source of a plainly named module has a file name without a slash. -/
theorem noSlash_fileName {module : SourceModule} (plain : PlainName module.name) :
    '/' ∉ module.fileName.toList := by
  rw [fileName, String.toList_append, List.mem_append]
  rintro (inName | inEnding)
  · exact plain.noSlash inName
  · exact absurd inEnding (by decide)

/-- The file name of a module is neither trivial nor that of the directory above. -/
theorem plain_fileName (module : SourceModule) :
    Path.isTrivial module.fileName.toList = false ∧ module.fileName.toList ≠ Path.upward := by
  have member : 'c' ∈ module.fileName.toList := by simp [fileName]
  exact Path.plain_of_mem member (by decide)

/-- What is done once the source of a module is written: the export step is asked for the
library. -/
def exported (compiler : ExportCompiler) (request : ExportRequest) (world : World) :
    Except SessionError Unit × World :=
  let (result, later) := (compiler.compile request).run (world.note (.exporting request))
  (result.mapError .build, later)

/-- A module is exported if its name is plain, and else refused with nothing done. Of one with a
plain name the source is written, if it can be, into the directory of the library, as a file with
the name of the module, and nothing else is written. Then the export step is asked once, for the
library from this one source. -/
theorem exports_beside_library (module : SourceModule) (library : Path)
    (compiler : ExportCompiler) (world : World) :
    let source := (libraryDirectory library).join module.fileName
    let outcome := (module.exportLibrary library compiler).run world
    (¬ PlainName module.name →
      outcome = (.error (.build (.argument (.moduleName module.name))), world)) ∧
    (PlainName module.name →
      match world.files.write source (Text.encode module.source) with
      | .error fault => outcome = (.error (.io fault), world)
      | .ok files =>
          (∃ place, world.files.locate (libraryDirectory library) = .ok place ∧
            world.files.entry? place = some .directory ∧
            world.files.PutsFile (place ++ [module.fileName.toList])
              (Text.encode module.source) files ∧
            files.resolve source = .ok (place ++ [module.fileName.toList])) ∧
          outcome = exported compiler ⟨.one library, .many [source], none⟩
            { world with workshop := { world.workshop with files } }) := by
  intro source outcome
  constructor
  · intro refused
    rw [← SourceModule.isPlainName_iff] at refused
    simp only [outcome, exportLibrary, if_neg refused]
    rfl
  · intro plain
    have runs : outcome = ((World.inWorkshop
        ((Workshop.put source (Text.encode module.source)).widen .io)) >>= fun _ =>
          (compiler.request ⟨.one library, .many [source], none⟩).widen .build).run world := by
      simp only [outcome, exportLibrary, if_pos (isPlainName_iff _ |>.mpr plain)]
      rfl
    rw [World.inWorkshop_widen] at runs
    rcases writes : world.files.write source (Text.encode module.source) with fault | files
    · have failed : ((World.inWorkshop (Workshop.put source (Text.encode module.source))).widen
          SessionError.io).run world = (.error (.io fault), world) := by
        rw [Action.run_widen, World.run_put_of_error writes, Except.mapError]
      exact runs.trans (Action.run_bind_of_error failed _)
    · obtain ⟨reached, resolves, isFile, files_eq⟩ := FileTree.write_ok writes
      obtain ⟨place, located, isDirectory, rfl⟩ :=
        FileTree.resolve_join (noSlash_fileName plain) module.plain_fileName resolves
      have puts := FileTree.putsFile_write resolves writes
      refine ⟨⟨place, located, isDirectory, puts, ?_⟩, ?_⟩
      · refine FileTree.resolve_of_directories (fun location held => ?_) puts.workingDirectory_eq
          resolves
        rw [puts.others location fun same => isFile (same ▸ held), held]
      · have succeeded : ((World.inWorkshop
            (Workshop.put source (Text.encode module.source))).widen SessionError.io).run world =
              (.ok (), { world with workshop := { world.workshop with files } }) := by
          rw [Action.run_widen, World.run_put_eq writes, Except.mapError]
        rw [runs, Action.run_bind_of_ok succeeded]
        rfl

end SourceModule

end MicroDevice
