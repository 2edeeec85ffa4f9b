import MicroDevice.Proofs.Build.Furnishing
import MicroDevice.Proofs.Build.Surroundings

/-! # What is created in a scratch directory

The headers and the support sources have directories of their own, the copy of an operator source
has the name of the source, and the name of an object begins with the position of its source. So
the paths that a compilation creates are all different, and its sources are put in place, unless
an operator source has the name of the directory for headers (`CompileJob.Clashes`). The copy of
such a source is not written, and no tool is called
(`ToolchainFamily.created_apart_unless_clash`).
-/

namespace MicroDevice

/-! ## Filling a directory -/

namespace Workshop

variable {Answer Next : Type} {place : Location} {scratch : Path} {names : List String}
  {held made filled : List (List String × Entry)}

/-- In a directory that holds the entries of one list, the action answers, and then the directory
holds those of another one. Only files are changed. -/
def Fills (place : Location) (held made : List (List String × Entry))
    (action : Action Workshop BuildError Answer) : Prop :=
  ∀ workshop, workshop.files.Furnished place held → ∃ answer files,
    action.run workshop = (.ok answer, { workshop with files }) ∧ files.Furnished place made

theorem fills_pure (value : Answer) :
    Fills place held held (pure value : Action Workshop BuildError Answer) :=
  fun workshop furnished => ⟨value, workshop.files, rfl, furnished⟩

/-- Filling a directory in two steps fills it with what both put there. -/
theorem Fills.bind {action : Action Workshop BuildError Answer}
    {next : Answer → Action Workshop BuildError Next} (first : Fills place held made action)
    (second : ∀ value, Fills place made filled (next value)) :
    Fills place held filled (action >>= next) := by
  intro workshop furnished
  obtain ⟨value, files, runs, between⟩ := first workshop furnished
  obtain ⟨answer, later, ends, last⟩ := second value { workshop with files } between
  exact ⟨answer, later, (Action.run_bind_of_ok runs next).trans ends, last⟩

/-- Writing a file into an open directory of the scratch directory adds its entry. -/
theorem fills_write (roomy : scratch.Roomy place) (usable : ∀ name ∈ names, Path.Usable name)
    (deep : names ≠ []) (shallow : names.length ≤ 2) (opens : FileTree.Opens held names)
    (free : held.lookup names ≠ some .directory) (contents : Bytes) :
    Fills place held ((names, .file contents) :: held)
      (write (scratch.descend names) contents) := by
  intro workshop furnished
  have writes := furnished.write (roomy.descend_spells usable)
    (roomy.descend_allowed usable shallow) roomy.named deep opens free contents
  exact ⟨(), _, by rw [run_write, writes], furnished.put roomy.named deep _⟩

/-- Making a directory where nothing is adds its entry. -/
theorem fills_makeDirectories (roomy : scratch.Roomy place)
    (usable : ∀ name ∈ names, Path.Usable name) (deep : names ≠ []) (shallow : names.length ≤ 2)
    (opens : FileTree.Opens held names) (free : held.lookup names = none) :
    Fills place held ((names, .directory) :: held)
      (makeDirectories (scratch.descend names)) := by
  intro workshop furnished
  have makes := furnished.makeDirectories (roomy.descend_spells usable)
    (roomy.descend_allowed usable shallow) roomy.named deep opens free
  exact ⟨(), _, by rw [run_makeDirectories, makes], furnished.put roomy.named deep _⟩

/-- There is room in a scratch directory that was just made. -/
theorem roomy_of_makeTemporary {workshop : Workshop} {files : FileTree}
    (makes : workshop.files.makeTemporary ".tmp" = .ok (scratch, files)) :
    scratch.Roomy workshop.scratchPlace := by
  have shelters := shelters_of_makeTemporary makes
  obtain ⟨rfl, -, -⟩ := FileTree.makeTemporary_ok (by decide) makes
  refine ⟨shelters.spells, workshop.scratchPlace_ne, shelters.allowed, ?_⟩
  have last : (String.ofList (".tmp".toList ++
      (toString workshop.files.temporaries).toList)).utf8ByteSize ≤ FileTree.nameLimit :=
    shelters.allowed.name_le _ (by simp [scratchPlace, FileTree.temporaryLocation])
  rw [String.ofList_append, String.ofList_toList, String.ofList_toList,
    String.utf8ByteSize_append] at last
  have root : "/tmp/".utf8ByteSize = 5 := rfl
  rw [FileTree.temporaryPath, String.utf8ByteSize_append, String.utf8ByteSize_append, root]
  unfold FileTree.nameLimit at last ⊢
  unfold FileTree.pathLimit
  omega

end Workshop

namespace Sources

variable {place : Location} {scratch : Path} {name : String} {sources : List SourceFile}
  {held : List (List String × Entry)}

/-- The headers. -/
def headers : List SourceFile :=
  [(runtimeHeaderName, runtimeHeaderText), (redirectHeaderName, redirectHeaderText)]

/-- A directory and the sources in it. -/
def directoryEntries (name : String) (sources : List SourceFile) : List (List String × Entry) :=
  ([name], .directory) :: sources.map fun source => ([name, source.1], .file (Text.encode source.2))

/-- Sources that can be put into one directory. -/
structure WellNamed (sources : List SourceFile) : Prop where
  usable : ∀ source ∈ sources, Path.Usable source.1
  nodup : (sources.map Prod.fst).Nodup

theorem usable_include : Path.Usable "include" := by decide

theorem usable_device : Path.Usable "device" := by decide

theorem wellNamed_headers : WellNamed headers := ⟨by decide, by decide⟩

/-- The headers are written as device sources are. -/
theorem writeHeaders_eq (directory : Path) :
    writeHeaders directory = writeDeviceSources directory headers >>= fun _ => pure directory := by
  unfold writeHeaders writeDeviceSources headers writeEach writeEach writeEach
  simp only [Action.bind_bind]
  rfl

/-- Writing sources into a directory adds an entry for each. -/
theorem fills_writeEach (roomy : scratch.Roomy place) (usable : Path.Usable name)
    (areUsable : ∀ source ∈ sources, Path.Usable source.1)
    (within : held.lookup [name] = some .directory)
    (free : ∀ source ∈ sources, held.lookup [name, source.1] ≠ some .directory) :
    Workshop.Fills place held ((sources.map fun source =>
      ([name, source.1], Entry.file (Text.encode source.2))).reverse ++ held)
      (writeEach (scratch.join name) sources) := by
  induction sources generalizing held with
  | nil => exact Workshop.fills_pure []
  | cons source later ih =>
      have both : ∀ other ∈ [name, source.1], Path.Usable other := by
        simpa using ⟨usable, areUsable source List.mem_cons_self⟩
      have first := Workshop.fills_write roomy both (by simp) (by simp)
        (FileTree.opens_pair within source.1) (free source List.mem_cons_self)
        (Text.encode source.2)
      rw [Path.descend_pair] at first
      rw [List.map_cons, List.reverse_cons, List.append_assoc, List.singleton_append]
      refine first.bind fun _ => Workshop.Fills.bind (ih
        (fun other member => areUsable other (List.mem_cons_of_mem _ member)) ?_
        fun other member => ?_) fun _ => Workshop.fills_pure _
      · rw [List.lookup_cons, beq_false_of_ne (by simp)]
        exact within
      · rw [List.lookup_cons]
        split
        · nofun
        · exact free other (List.mem_cons_of_mem _ member)

/-- Writing device sources adds their directory with an entry for each. -/
theorem fills_writeDeviceSources (roomy : scratch.Roomy place) (usable : Path.Usable name)
    (wellNamed : WellNamed sources) (free : ∀ rest, held.lookup (name :: rest) = none) :
    Workshop.Fills place held ((directoryEntries name sources).reverse ++ held)
      (writeDeviceSources (scratch.join name) sources) := by
  rw [directoryEntries, List.reverse_cons, List.append_assoc, List.singleton_append]
  have single : ∀ other ∈ [name], Path.Usable other := by simpa using usable
  have directory := Workshop.fills_makeDirectories roomy single (by simp) (by simp)
    (FileTree.opens_singleton held name) (free [])
  rw [Path.descend_singleton] at directory
  refine directory.bind fun _ => ?_
  refine fills_writeEach roomy usable wellNamed.usable (by simp) fun source _ => ?_
  rw [List.lookup_cons, beq_false_of_ne (by simp), free]
  nofun

/-- Writing the headers fills an empty scratch directory with their directory. -/
theorem fills_writeHeaders (roomy : scratch.Roomy place) :
    Workshop.Fills place [] (directoryEntries "include" headers).reverse
      (writeHeaders (scratch.join "include")) := by
  have free : ∀ rest, ([] : List (List String × Entry)).lookup ("include" :: rest) = none :=
    fun _ => rfl
  have fills := fills_writeDeviceSources roomy usable_include wellNamed_headers free
  rw [List.append_nil] at fills
  rw [writeHeaders_eq]
  exact fills.bind fun _ => Workshop.fills_pure _

/-! ## What a directory of sources holds -/

/-- The names of a directory's entries are its own and those of its sources below it. -/
theorem names_directoryEntries : (directoryEntries name sources).map Prod.fst =
    [name] :: sources.map fun source => [name, source.1] := by
  rw [directoryEntries, List.map_cons, List.map_map]
  rfl

/-- All entries are in the directory, or are the directory. -/
theorem head_of_mem {names : List String}
    (member : names ∈ (directoryEntries name sources).map Prod.fst) :
    names.head? = some name := by
  rw [names_directoryEntries] at member
  rcases List.mem_cons.mp member with rfl | member
  · rfl
  · obtain ⟨source, -, rfl⟩ := List.mem_map.mp member
    rfl

theorem nodup_directoryEntries (name : String) (wellNamed : WellNamed sources) :
    ((directoryEntries name sources).map Prod.fst).Nodup := by
  have files : (sources.map fun source => [name, source.1]).Nodup := by
    have each := wellNamed.nodup.map (f := fun other => [name, other]) fun first second same => by
      simpa using same
    rwa [List.map_map] at each
  rw [names_directoryEntries]
  exact List.nodup_cons.mpr ⟨by simp, files⟩

/-- A directory and its sources are layered. -/
theorem layered_directoryEntries (usable : Path.Usable name) (wellNamed : WellNamed sources) :
    FileTree.Layered (directoryEntries name sources) := by
  constructor <;> intro names member <;> rw [names_directoryEntries] at member <;>
    rcases List.mem_cons.mp member with rfl | member
  · simpa using usable
  · obtain ⟨source, isSource, rfl⟩ := List.mem_map.mp member
    simpa using ⟨usable, wellNamed.usable source isSource⟩
  · exact .inl ⟨name, rfl⟩
  · obtain ⟨source, -, rfl⟩ := List.mem_map.mp member
    exact .inr ⟨name, source.1, rfl, List.mem_cons_self⟩

end Sources

/-- An operator source has the name of the directory for headers. -/
def CompileJob.Clashes (job : CompileJob) : Prop :=
  job.libType = .operator ∧ job.source.fileName? = some "include"

namespace ToolchainFamily

variable {family : ToolchainFamily} {job : CompileJob} {scratch : Path} {place : Location}
  {text : String}

/-! ## What is created -/

/-- The name of the copy of an operator source. -/
def copyName (job : CompileJob) : String :=
  job.source.fileName?.getD "operator.c"

/-- The name of the object of the source at a position. -/
def objectName (index : Nat) (source : Path) : String :=
  s!"{index}_" ++ source.fileStem?.getD "source" ++ ".o"

/-- What is put into a scratch directory before a tool is called, for a source with some text. -/
def stagedEntries (family : ToolchainFamily) (job : CompileJob) (text : String) :
    List (List String × Entry) :=
  Sources.directoryEntries "include" Sources.headers ++
    match job.libType with
    | .runtime => Sources.directoryEntries "device" family.sources
    | .operator => [([copyName job], .file (Text.encode (redirected text)))]

/-- The names under which the objects of the sources are in a scratch directory. -/
def objectNames (family : ToolchainFamily) (job : CompileJob) (scratch : Path) :
    List (List String) :=
  (family.stagedSources job scratch).mapIdx fun index source => [objectName index source]

/-- The paths that a compilation creates in its scratch directory, in order: those of what is put
there, and those of the objects. -/
def createdPaths (family : ToolchainFamily) (job : CompileJob) (scratch : Path) (text : String) :
    List Path :=
  (family.stagedEntries job text).map (fun made => scratch.descend made.1) ++
    family.stagedObjects job scratch

/-- The objects are at their names below the scratch directory. -/
theorem stagedObjects_eq : family.stagedObjects job scratch =
    (family.objectNames job scratch).map scratch.descend := by
  refine List.ext_getElem (by simp [stagedObjects, objectNames]) fun index _ _ => ?_
  simp only [stagedObjects, objectNames, List.getElem_mapIdx, List.getElem_map,
    Path.descend_singleton, objectPath, objectName]

/-- The paths created are those of the staged entries and of the objects, below the scratch
directory. -/
theorem createdPaths_eq : family.createdPaths job scratch text =
    ((family.stagedEntries job text).map Prod.fst ++ family.objectNames job scratch).map
      scratch.descend := by
  rw [createdPaths, stagedObjects_eq, List.map_append, List.map_map]
  rfl

/-- The copy has a usable name if its source is read. -/
theorem usable_copyName {files : FileTree} (reads : files.readText job.source = .ok text) :
    Path.Usable (copyName job) := by
  unfold copyName
  rcases named : job.source.fileName? with _ | name
  · exact (by decide : Path.Usable "operator.c")
  · exact FileTree.usable_of_readText reads named

/-- The copy of an operator source has the name of the header directory exactly when the job
clashes. -/
theorem copyName_eq_iff (isOperator : job.libType = .operator) :
    copyName job = "include" ↔ job.Clashes := by
  unfold copyName CompileJob.Clashes
  rcases job.source.fileName? with _ | name <;> simp [isOperator]

/-- What is staged is layered. -/
theorem layered_stagedEntries (text : String) (wellNamed : Sources.WellNamed family.sources)
    (usable : Path.Usable (copyName job)) :
    FileTree.Layered (family.stagedEntries job text) := by
  have headers := Sources.layered_directoryEntries Sources.usable_include Sources.wellNamed_headers
  refine headers.append ?_
  split
  · exact Sources.layered_directoryEntries Sources.usable_device wellNamed
  · exact FileTree.layered_singleton usable _

/-- What is staged has different names, unless an operator source has the name of the directory for
headers. -/
theorem nodup_stagedEntries_iff (text : String) (wellNamed : Sources.WellNamed family.sources) :
    ((family.stagedEntries job text).map Prod.fst).Nodup ↔ ¬ job.Clashes := by
  have headers := Sources.nodup_directoryEntries "include" Sources.wellNamed_headers
  rw [stagedEntries, List.map_append]
  rcases kind : job.libType
  case runtime =>
    have noClash : ¬ job.Clashes := fun ⟨isOperator, _⟩ => by
      rw [kind] at isOperator
      cases isOperator
    refine iff_of_true (headers.append (Sources.nodup_directoryEntries _ wellNamed) ?_) noClash
    intro names first second
    have same := (Sources.head_of_mem first).symm.trans (Sources.head_of_mem second)
    exact absurd (Option.some.inj same) (by decide)
  case operator =>
    have inside : [copyName job] ∈
        (Sources.directoryEntries "include" Sources.headers).map Prod.fst ↔ job.Clashes := by
      rw [← copyName_eq_iff kind]
      refine ⟨fun member => Option.some.inj (Sources.head_of_mem member), fun same => ?_⟩
      rw [same, Sources.names_directoryEntries]
      exact List.mem_cons_self
    rw [← inside]
    exact (List.nodup_concat _ _).trans (and_iff_left headers)

/-- No two objects have the same name. -/
theorem nodup_objectNames : (family.objectNames job scratch).Nodup := by
  have nodup := family.nodup_stagedObjects job scratch
  rw [stagedObjects_eq] at nodup
  exact nodup.of_map

/-- An object does not have the name of its source. -/
theorem objectName_ne {source : Path} {name : String} (named : source.fileName? = some name)
    (index : Nat) : objectName index source ≠ name := by
  intro same
  have whole := objectName_toList index source
  rw [← objectName, same] at whole
  have divided : Path.divideName name = (Nat.toDigits 10 index ++ '_' ::
      (source.fileStem?.getD "source").toList, some ['o']) :=
    Path.divideName_of_dot (by simpa using whole) (by decide) (by simp)
  have stem : source.fileStem?.getD "source" =
      String.ofList (Nat.toDigits 10 index ++ '_' ::
        (source.fileStem?.getD "source").toList) := by
    conv_lhs => rw [Path.fileStem?, named, Option.map_some, divided, Option.getD_some]
  -- the stem would be longer than itself
  have lengths := congrArg (fun stem => stem.toList.length) stem
  simp only [String.toList_ofList, List.length_append, List.length_cons] at lengths
  omega

/-- Objects do not have the names of what is staged. -/
theorem objectNames_apart (spells : scratch.Spells place) (named : place ≠ [])
    {names : List String} (member : names ∈ family.objectNames job scratch) :
    names ∉ (family.stagedEntries job text).map Prod.fst := by
  obtain ⟨index, inside, rfl⟩ := List.mem_mapIdx.mp member
  generalize isSource : (family.stagedSources job scratch)[index] = source
  have notIn {directory : String} {sources : List Sources.SourceFile}
      (plain : '_' ∉ directory.toList) :
      [objectName index source] ∉ (Sources.directoryEntries directory sources).map Prod.fst := by
    intro member
    have same : objectName index source = directory := Option.some.inj (Sources.head_of_mem member)
    have whole := objectName_toList index source
    rw [← objectName, same] at whole
    exact plain (by simp [whole])
  rw [stagedEntries, List.map_append, List.mem_append, not_or]
  refine ⟨notIn (by decide), ?_⟩
  rcases kind : job.libType
  case runtime => exact notIn (by decide)
  case operator =>
    have isCopy : source = copyPath job scratch := by
      have only : family.stagedSources job scratch = [copyPath job scratch] := by
        rw [stagedSources, kind]
      have member : source ∈ family.stagedSources job scratch := isSource ▸ List.getElem_mem inside
      rwa [only, List.mem_singleton] at member
    have plain := isFileName_copy job.source
    have copied := (spells.join named plain.1 plain.2).fileName?
    have other : objectName index source ≠ copyName job := isCopy ▸ objectName_ne copied index
    simpa using other

/-- What is created is below the scratch directory. -/
theorem isFileName_of_created (wellNamed : Sources.WellNamed family.sources)
    (usable : Path.Usable (copyName job)) {names : List String}
    (member : names ∈ (family.stagedEntries job text).map Prod.fst ++
      family.objectNames job scratch) :
    names ≠ [] ∧ ∀ name ∈ names, Sources.IsFileName name := by
  rcases List.mem_append.mp member with staged | object
  · have layered := layered_stagedEntries text wellNamed usable
    refine ⟨?_, fun name inside => (layered.usable names staged name inside).isFileName⟩
    rcases layered.levels names staged with ⟨name, rfl⟩ | ⟨directory, name, rfl, -⟩ <;> simp
  · obtain ⟨index, inside, rfl⟩ := List.mem_mapIdx.mp object
    refine ⟨by simp, fun name inside => ?_⟩
    rw [List.mem_singleton.mp inside]
    exact isFileName_objectName index _

/-- The paths created are distinct exactly when the job does not clash. -/
theorem nodup_createdPaths_iff (wellNamed : Sources.WellNamed family.sources)
    (usable : Path.Usable (copyName job)) (spells : scratch.Spells place) (named : place ≠ []) :
    (family.createdPaths job scratch text).Nodup ↔ ¬ job.Clashes := by
  rw [createdPaths_eq, ← nodup_stagedEntries_iff text wellNamed]
  refine ⟨fun nodup => (List.nodup_append.mp nodup.of_map).1, fun nodup => ?_⟩
  refine List.Nodup.map_on (fun first inFirst second inSecond same => ?_) ?_
  · exact spells.descend_inj named (isFileName_of_created wellNamed usable inFirst).2
      (isFileName_of_created wellNamed usable inSecond).2 same
  · refine nodup.append nodup_objectNames fun names first second => ?_
    exact objectNames_apart spells named second first

/-- An operator source may have the name that an object of `op.c` would have. -/
example :
    (host.createdPaths ⟨⟨"op.obj"⟩, ⟨"0_op.o"⟩, .operator, .unset⟩ ⟨"/tmp/.tmp0"⟩ "").map
        (·.text) =
      ["/tmp/.tmp0/include", "/tmp/.tmp0/include/micrort_runtime.h",
        "/tmp/.tmp0/include/micrort_device_redirect.h", "/tmp/.tmp0/0_op.o",
        "/tmp/.tmp0/0_0_op.o"] := by
  decide +kernel

/-- The objects are what the compiler is called for. -/
theorem map_output?_compilerCalls (host : Host) (spells : scratch.Spells place)
    (named : place ≠ []) :
    (family.compilerCalls host job scratch).map ToolCall.output? =
      (family.stagedObjects job scratch).map some := by
  refine List.ext_getElem (by simp [compilerCalls, stagedObjects]) fun index _ _ => ?_
  simp only [compilerCalls, stagedObjects, List.getElem_mapIdx, List.getElem_map,
    output?_compilerCall spells named]

/-- The sources of each built-in family can be put into one directory. -/
theorem wellNamed_of_builtins : ∀ family ∈ builtins, Sources.WellNamed family.sources := by
  have usable : ∀ family ∈ builtins, ∀ source ∈ family.sources, Path.Usable source.1 := by decide
  have nodup : ∀ family ∈ builtins, (family.sources.map Prod.fst).Nodup := by decide
  exact fun family builtin => ⟨usable family builtin, nodup family builtin⟩

/-! ## Putting sources in place -/

section Running

variable {workshop : Workshop}

/-- There is an empty scratch directory. The source is read whatever is put there. -/
structure Begins (job : CompileJob) (text : String) (scratch : Path) (place : Location)
    (workshop : Workshop) : Prop where
  roomy : scratch.Roomy place
  empty : workshop.files.Furnished place []
  reads : ∀ files, workshop.files.AgreesBeside place files →
    files.readText job.source = .ok text

/-- A temporary directory that has just been made is an empty scratch directory. -/
theorem begins_of_makeTemporary {files : FileTree}
    (makes : workshop.files.makeTemporary ".tmp" = .ok (scratch, files))
    (vacant : ∀ location, workshop.scratchPlace <+: location →
      workshop.files.entry? location = none)
    (reads : workshop.files.readText job.source = .ok text) :
    Begins job text scratch workshop.scratchPlace { workshop with files } := by
  have shelters := Workshop.shelters_of_makeTemporary makes
  refine ⟨Workshop.roomy_of_makeTemporary makes,
    FileTree.furnished_of_makeTemporary (by decide) makes vacant, fun other agrees => ?_⟩
  have beside := trans_of (FileTree.AgreesBeside workshop.scratchPlace) shelters.agrees agrees
  exact beside.readText_of_vacant vacant reads

/-- A source that is read is copied just if the copy can be written. -/
theorem run_stageOperator {source : Path} (reads : workshop.files.readText source = .ok text)
    (directory : Path) :
    (stageOperator source directory).run workshop =
      match workshop.files.write (directory.join (source.fileName?.getD "operator.c"))
        (Text.encode (redirected text)) with
      | .ok files =>
          (.ok (directory.join (source.fileName?.getD "operator.c")), { workshop with files })
      | .error fault => (.error (.io fault), workshop) := by
  have looks : (Workshop.look fun files => files.readText source).run workshop =
      (.ok text, workshop) := by
    rw [Workshop.run_look, reads]
    rfl
  rw [stageOperator, Action.run_bind_of_ok looks]
  dsimp only
  rw [Action.run_bind, Workshop.run_write]
  rcases workshop.files.write _ (Text.encode (redirected text)) with fault | files <;> rfl

/-- Once the headers are in place, the source is still read. -/
theorem run_prepare (family : ToolchainFamily) (begins : Begins job text scratch place workshop) :
    ∃ files, files.Furnished place (Sources.directoryEntries "include" Sources.headers).reverse ∧
      files.readText job.source = .ok text ∧
      (family.prepare job scratch).run workshop =
        (family.stageSources job scratch).run { workshop with files } := by
  obtain ⟨_, files, heads, furnished⟩ :=
    Sources.fills_writeHeaders begins.roomy workshop begins.empty
  have spells : (scratch.join "include").Spells (place ++ ["include".toList]) :=
    begins.roomy.spells.join begins.roomy.named Sources.usable_include.isFileName.1
      Sources.usable_include.isFileName.2
  have confined := Sources.confines_writeHeaders spells (by simp) workshop begins.empty.rooted
  rw [heads] at confined
  exact ⟨files, furnished, begins.reads files confined, Action.run_bind_of_ok heads _⟩

/-- The copy of an operator source is written just if there is no directory of its name. -/
theorem run_stageSources_operator (family : ToolchainFamily) (scratch : Path)
    (workshop : Workshop) (isOperator : job.libType = .operator)
    (reads : workshop.files.readText job.source = .ok text) :
    (family.stageSources job scratch).run workshop =
      match workshop.files.write (scratch.descend [copyName job])
        (Text.encode (redirected text)) with
      | .ok files => (.ok [scratch.descend [copyName job]], { workshop with files })
      | .error fault => (.error (.io fault), workshop) := by
  rw [stageSources, isOperator]
  dsimp only
  rw [Action.run_bind, run_stageOperator reads scratch, ← copyName, ← Path.descend_singleton]
  rcases workshop.files.write _ (Text.encode (redirected text)) with fault | files <;> rfl

/-- Sources are put into an empty directory, unless an operator source has the name of the
directory for headers. -/
theorem run_prepare_of_apart (apart : ¬ job.Clashes)
    (wellNamed : Sources.WellNamed family.sources) (usable : Path.Usable (copyName job))
    (begins : Begins job text scratch place workshop) :
    ∃ sources files, (family.prepare job scratch).run workshop =
        (.ok sources, { workshop with files }) ∧
      files.Furnished place (family.stagedEntries job text).reverse := by
  obtain ⟨headed, headers, stillReads, runs⟩ := family.run_prepare begins
  have free (name : String) (other : name ≠ "include") (rest : List String) :
      (Sources.directoryEntries "include" Sources.headers).reverse.lookup (name :: rest) =
        none := by
    refine FileTree.lookup_of_not_mem fun member => ?_
    rw [List.map_reverse, List.mem_reverse] at member
    exact other (Option.some.inj (Sources.head_of_mem member))
  rw [runs, stagedEntries, List.reverse_append]
  rcases kind : job.libType
  case runtime =>
    have fills := Sources.fills_writeDeviceSources begins.roomy Sources.usable_device wellNamed
      (free "device" (by decide))
    rw [stageSources, kind]
    exact fills.bind (fun support => Workshop.fills_pure (job.source :: support)) _ headers
  case operator =>
    have other : copyName job ≠ "include" := (copyName_eq_iff kind).not.mpr apart
    have single : ∀ name ∈ [copyName job], Path.Usable name := by simpa using usable
    have writes := headers.write (begins.roomy.descend_spells single)
      (begins.roomy.descend_allowed single (by simp)) begins.roomy.named (by simp)
      (FileTree.opens_singleton _ _) (by simp [free _ other])
      (Text.encode (redirected text))
    have staging := family.run_stageSources_operator scratch { workshop with files := headed } kind
      stillReads
    dsimp only at staging
    rw [writes] at staging
    exact ⟨_, _, staging, headers.put begins.roomy.named (by simp) _⟩

/-- A job that clashes cannot be prepared: its copy would be a file where a directory is. -/
theorem run_prepare_of_clashes (family : ToolchainFamily) (clashes : job.Clashes)
    (begins : Begins job text scratch place workshop) :
    ∃ files, (family.prepare job scratch).run workshop =
      (.error (.io .isADirectory), { workshop with files }) := by
  obtain ⟨headed, headers, stillReads, runs⟩ := family.run_prepare begins
  have same : copyName job = "include" := (copyName_eq_iff clashes.1).mpr clashes
  have single : ∀ name ∈ ["include"], Path.Usable name := by simpa using Sources.usable_include
  have fails := headers.write_of_directory (begins.roomy.descend_spells single)
    (begins.roomy.descend_allowed single (by simp)) begins.roomy.named (by simp)
    (FileTree.opens_singleton _ _) (by decide) (Text.encode (redirected text))
  have staging := family.run_stageSources_operator scratch { workshop with files := headed }
    clashes.1 stillReads
  dsimp only at staging
  rw [same, fails] at staging
  exact ⟨headed, runs.trans staging⟩

/-- All that a compilation of a source that is read creates in its scratch directory is below that
directory, and the paths are all different unless an operator source has the name of the directory
for headers. If they are different, all that is staged is there with its own contents, nothing else
is, and the compiler makes each object at a path where nothing was. If they are not, the compilation
fails as it stages the operator source, and no tool is called. -/
theorem created_apart_unless_clash (family : ToolchainFamily) (host : Host) (job : CompileJob)
    (workshop : Workshop) {files : FileTree} (wellNamed : Sources.WellNamed family.sources)
    (sized : family.checkWordSize job.options.wordSize = .ok ())
    (laid : family.checkLayout job.options.layout = .ok ())
    (makes : workshop.files.makeTemporary ".tmp" = .ok (scratch, files))
    (vacant : ∀ location, workshop.scratchPlace <+: location →
      workshop.files.entry? location = none)
    (reads : workshop.files.readText job.source = .ok text) :
    (∀ path ∈ family.createdPaths job scratch text,
      ∃ names, names ≠ [] ∧ path.Spells (workshop.scratchPlace ++ names)) ∧
    ((family.createdPaths job scratch text).Nodup ↔ ¬ job.Clashes) ∧
    (¬ job.Clashes → ∃ staged, family.Stages job workshop scratch staged ∧
      (∀ names entry, (names, entry) ∈ family.stagedEntries job text →
        staged.files.find? (scratch.descend names) = some entry) ∧
      staged.files.Furnished workshop.scratchPlace (family.stagedEntries job text).reverse ∧
      (family.compilerCalls host job scratch).map ToolCall.output? =
        (family.stagedObjects job scratch).map some ∧
      ∀ object ∈ family.stagedObjects job scratch, staged.files.find? object = none) ∧
    (job.Clashes → ∃ after,
      (family.compile host job).run workshop = (.error (.io .isADirectory), after) ∧
        after.calls = workshop.calls) := by
  have begins := begins_of_makeTemporary makes vacant reads
  have roomy := begins.roomy
  have usable := usable_copyName reads
  refine ⟨fun path member => ?_,
    nodup_createdPaths_iff wellNamed usable roomy.spells roomy.named, fun apart => ?_,
    fun clashes => ?_⟩
  · rw [createdPaths_eq] at member
    obtain ⟨names, isCreated, rfl⟩ := List.mem_map.mp member
    obtain ⟨deep, areNames⟩ := isFileName_of_created wellNamed usable isCreated
    exact ⟨names.map String.toList, by simpa using deep,
      roomy.spells.descend roomy.named areNames⟩
  · obtain ⟨sources, filled, prepares, furnished⟩ :=
      run_prepare_of_apart apart wellNamed usable begins
    have distinct := (nodup_stagedEntries_iff text wellNamed).mpr apart
    refine ⟨_, ⟨sized, laid, files, sources, makes, prepares⟩, fun names entry member =>
      furnished.find?_of_mem roomy (layered_stagedEntries text wellNamed usable) distinct member,
      furnished, map_output?_compilerCalls host roomy.spells roomy.named, fun object member => ?_⟩
    rw [stagedObjects_eq] at member
    obtain ⟨names, isObject, rfl⟩ := List.mem_map.mp member
    obtain ⟨deep, areNames⟩ := isFileName_of_created wellNamed usable
      (List.mem_append_right ((family.stagedEntries job text).map Prod.fst) isObject)
    refine furnished.find?_eq_none (roomy.spells.descend roomy.named areNames) deep
      (FileTree.lookup_of_not_mem ?_)
    rw [List.map_reverse, List.mem_reverse]
    exact objectNames_apart roomy.spells roomy.named isObject
  · obtain ⟨left, fails⟩ := family.run_prepare_of_clashes clashes begins
    have runs := run_compile_of_accepted host workshop sized laid
    rw [makes] at runs
    dsimp only at runs
    rw [compileIn_eq, Action.run_bind_of_error fails] at runs
    exact ⟨_, runs, rfl⟩

/-- An operator source is read but not staged, since it has the name of the directory for
headers. -/
theorem operator_source_named_include :
    let job : CompileJob := ⟨⟨"op.obj"⟩, ⟨"include"⟩, .operator, .unset⟩
    let workshop : Workshop :=
      ⟨FileTree.fresh.put ["work".toList, "include".toList] (.file (Text.encode "int f;\n")),
        Simulation.toolbox [⟨"arm-none-eabi-gcc", none, [], 0, none⟩,
          ⟨"arm-none-eabi-ld", none, [], 0, none⟩], []⟩
    workshop.files.readText job.source = .ok "int f;\n" ∧
      (∃ scratch files, workshop.files.makeTemporary ".tmp" = .ok (scratch, files) ∧
        ¬ (stm32f746xx.createdPaths job scratch "int f;\n").Nodup) ∧
      ∃ after, (stm32f746xx.compile .current job).run workshop =
        (.error (.io .isADirectory), after) ∧ after.calls = [] := by
  intro job workshop
  have made : (workshop.files.makeTemporary ".tmp").toOption.isSome = true := by decide +kernel
  have vacant : ∀ location, workshop.scratchPlace <+: location →
      workshop.files.entry? location = none := by
    rintro location ⟨names, rfl⟩
    rfl
  have reads : workshop.files.readText job.source = .ok "int f;\n" := by
    have found : (workshop.files.readText job.source).toOption = some "int f;\n" := by
      decide +kernel
    rcases isRead : workshop.files.readText job.source with fault | text <;>
      rw [isRead] at found <;> cases found
    rfl
  have clashes : job.Clashes := ⟨rfl, by decide⟩
  have uncalled : workshop.calls = [] := rfl
  rcases makes : workshop.files.makeTemporary ".tmp" with fault | ⟨scratch, files⟩
  · rw [makes] at made
    cases made
  · obtain ⟨-, nodup, -, fails⟩ := created_apart_unless_clash stm32f746xx .current job workshop
      (wellNamed_of_builtins _ (by simp [builtins])) rfl rfl makes vacant reads
    exact ⟨reads, ⟨scratch, files, rfl, fun distinct => nodup.mp distinct clashes⟩,
      uncalled ▸ fails clashes⟩

end Running

end ToolchainFamily

end MicroDevice
