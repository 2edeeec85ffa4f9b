import MicroDevice.Proofs.Build.Outputs

/-! # What a compilation leaves around it

All that a compilation does before it calls the linker is done in its scratch directory, if its
tools change no more than their outputs (`Toolbox.WritesOutputs`). The scratch directory is gone in
the end, and beside it only the object may be different, if the linker was called
(`ToolchainFamily.compile_spares_surroundings`).
-/

namespace MicroDevice

namespace Workshop

variable {before after : Workshop} {call : ToolCall} {calls : List ToolCall}
  {failure : Option ToolFailure} {result : Except BuildError Unit} {place : Location}

/-- A call of a tool that writes outputs changes nothing but its output. -/
theorem Calling.changesOutput (calling : Calling before call failure after)
    (tools : before.toolbox.WritesOutputs) : call.ChangesOutput before.files after.files := by
  have changes := tools before.calls call before.files
  cases calling with
  | unpassable => exact ⟨rfl, fun _ differs => absurd rfl differs⟩
  | notStarted _ ends | failed _ ends | succeeded _ ends =>
      rw [ends] at changes
      exact changes

/-- Calls whose outputs are below a place change nothing beside it. -/
theorem Succeeding.agreesBeside (succeeding : Succeeding before calls after)
    (tools : before.toolbox.WritesOutputs)
    (below : ∀ call ∈ calls, ∀ output, call.output? = some output →
      ∃ names, output.Spells (place ++ names)) :
    before.files.AgreesBeside place after.files := by
  induction succeeding with
  | nil => exact refl_of (FileTree.AgreesBeside place) _
  | @cons _ middle _ call later calling _ ih =>
      have first := (calling.changesOutput tools).agreesBeside (below call List.mem_cons_self)
      have rest := ih (calling.toolbox_eq ▸ tools)
        fun other member => below other (List.mem_cons_of_mem call member)
      exact trans_of (FileTree.AgreesBeside place) first rest

/-- Calls whose outputs are below a place change nothing beside it. -/
theorem CallsInTurn.agreesBeside (inTurn : CallsInTurn before calls result after)
    (tools : before.toolbox.WritesOutputs)
    (below : ∀ call ∈ calls, ∀ output, call.output? = some output →
      ∃ names, output.Spells (place ++ names)) :
    before.files.AgreesBeside place after.files := by
  cases inTurn with
  | done succeeding => exact succeeding.agreesBeside tools below
  | @stopped passed later call _ reached _ succeeding calling =>
      have first := succeeding.agreesBeside tools fun other member =>
        below other (List.mem_append_left _ member)
      have last := (calling.changesOutput (succeeding.toolbox_eq ▸ tools)).agreesBeside
        (below call (by simp))
      exact trans_of (FileTree.AgreesBeside place) first last

/-! ## Staging -/

/-- Below directories, nothing is different beside the place. -/
def Confines (place : Location) (before after : Workshop) : Prop :=
  before.files.Rooted place → before.files.AgreesBeside place after.files

instance (place : Location) : IsPreorder Workshop (Confines place) where
  refl workshop _ := refl_of (FileTree.AgreesBeside place) workshop.files
  trans _ _ _ first second rooted :=
    trans_of (FileTree.AgreesBeside place) (first rooted) (second ((first rooted).rooted rooted))

/-- Writing below a place changes nothing beside it. -/
theorem confines_write {path : Path} {names : Location} (spells : path.Spells (place ++ names))
    (contents : Bytes) : (write path contents).Moves (Confines place) :=
  Action.Moves.widen
    (moves_alter fun _ _ writes _ => FileTree.agreesBeside_write spells writes) BuildError.io

/-- Making directories below a place changes nothing beside it. -/
theorem confines_makeDirectories {path : Path} {names : Location}
    (spells : path.Spells (place ++ names)) (named : place ++ names ≠ []) :
    (makeDirectories path).Moves (Confines place) :=
  Action.Moves.widen (moves_alter fun _ _ makes rooted =>
    FileTree.agreesBeside_makeDirectories rooted spells named makes) BuildError.io

/-! ## The scratch directory -/

/-- The place of the next scratch directory. -/
def scratchPlace (workshop : Workshop) : Location :=
  FileTree.temporaryLocation ".tmp" workshop.files.temporaries

theorem scratchPlace_ne (workshop : Workshop) : workshop.scratchPlace ≠ [] :=
  FileTree.temporaryLocation_ne _ _

/-- There is a scratch directory at its place, and beside it all is as it was. -/
structure Shelters (before : Workshop) (scratch : Path) (after : Workshop) : Prop where
  spells : scratch.Spells before.scratchPlace
  allowed : scratch.Allowed before.scratchPlace
  rooted : after.files.Rooted before.scratchPlace
  agrees : before.files.AgreesBeside before.scratchPlace after.files

variable {middle : Workshop} {scratch : Path} {files : FileTree}

/-- A scratch directory that was just made is all that is new. -/
theorem shelters_of_makeTemporary
    (makes : before.files.makeTemporary ".tmp" = .ok (scratch, files)) :
    before.Shelters scratch { before with files } := by
  have noSlash : '/' ∉ ".tmp".toList := by decide
  obtain ⟨rfl, -, -⟩ := FileTree.makeTemporary_ok noSlash makes
  obtain ⟨rooted, allowed⟩ := FileTree.rooted_of_makeTemporary noSlash makes
  have agrees := FileTree.agreesBeside_makeTemporary noSlash makes
  exact ⟨FileTree.spells_temporary noSlash _, allowed, agrees.rooted rooted, agrees⟩

/-- A scratch directory is still a shelter after changes below it. -/
theorem Shelters.trans (shelters : before.Shelters scratch middle)
    (agrees : middle.files.AgreesBeside before.scratchPlace after.files) :
    before.Shelters scratch after :=
  ⟨shelters.spells, shelters.allowed, agrees.rooted shelters.rooted,
    trans_of (FileTree.AgreesBeside before.scratchPlace) shelters.agrees agrees⟩

/-- Nothing of the scratch directory is left when it was removed. -/
theorem Shelters.gone (shelters : before.Shelters scratch middle)
    (rooted : after.files.Rooted before.scratchPlace) {location : Location}
    (below : before.scratchPlace <+: location) :
    (after.removeAll scratch).files.entry? location = none :=
  FileTree.entry_removeAll_below rooted shelters.spells shelters.allowed before.scratchPlace_ne
    below

end Workshop

namespace Sources

variable {place names : Location} {directory : Path}

/-- Writing into a directory below a place changes nothing beside the place. -/
theorem confines_writeIn (spells : directory.Spells (place ++ names)) (named : place ++ names ≠ [])
    {name : String} (isName : IsFileName name) (contents : Bytes) :
    (Workshop.write (directory.join name) contents).Moves (Workshop.Confines place) := by
  have below := spells.join named isName.1 isName.2
  rw [List.append_assoc] at below
  exact Workshop.confines_write below contents

theorem confines_writeHeaders (spells : directory.Spells (place ++ names))
    (named : place ++ names ≠ []) : (writeHeaders directory).Moves (Workshop.Confines place) :=
  (Workshop.composes_moves _).writeHeaders (Workshop.confines_makeDirectories spells named)
    fun _ isHeader contents => confines_writeIn spells named (isFileName_header isHeader) contents

end Sources

namespace ToolchainFamily

variable {family : ToolchainFamily} {host : Host} {job : CompileJob} {scratch : Path}
  {place : Location} {workshop staged : Workshop}

/-- The name of the copy of an operator source is a plain one, whatever the source. -/
theorem isFileName_copy (source : Path) :
    Sources.IsFileName (source.fileName?.getD "operator.c") := by
  rcases named : source.fileName? with _ | name
  · decide
  · exact Path.plain_of_fileName? named

/-- Preparing a job changes nothing beside its scratch directory. -/
theorem confines_prepare (job : CompileJob)
    (areNames : ∀ source ∈ family.sources, Sources.IsFileName source.1)
    (spells : scratch.Spells place) (named : place ≠ []) :
    (family.prepare job scratch).Moves (Workshop.Confines place) := by
  have inside {name : String} (isName : Sources.IsFileName name) :
      (scratch.join name).Spells (place ++ [name.toList]) := spells.join named isName.1 isName.2
  have below (name : String) : place ++ [name.toList] ≠ [] := by simp
  have parts : family.HoldsInStaging job scratch
      fun _ action => action.Moves (Workshop.Confines place) := {
    composes := Workshop.composes_moves _
    looks := Workshop.moves_look
    makes := by
      intro _ made
      cases made with
      | headers | support => exact Workshop.confines_makeDirectories (inside (by decide)) (below _)
    writes := by
      intro _ contents written
      cases written with
      | header isHeader =>
          exact Sources.confines_writeIn (inside (by decide)) (below _)
            (Sources.isFileName_header isHeader) contents
      | support _ member =>
          exact Sources.confines_writeIn (inside (by decide)) (below _) (areNames _ member) contents
      | copy _ => exact Workshop.confines_write (inside (isFileName_copy job.source)) contents }
  exact parts.composes.bind parts.writeHeaders fun _ => parts.stageSources

/-! ## The work in the scratch directory -/

/-- A prepared scratch directory is still a shelter. -/
theorem shelters_prepare (areNames : ∀ source ∈ family.sources, Sources.IsFileName source.1)
    {middle after : Workshop} {result : Except BuildError (List Path)}
    (shelters : workshop.Shelters scratch middle)
    (prepares : (family.prepare job scratch).run middle = (result, after)) :
    workshop.Shelters scratch after := by
  have confined := confines_prepare job areNames shelters.spells
    workshop.scratchPlace_ne middle shelters.rooted
  rw [prepares] at confined
  exact shelters.trans confined

/-- The scratch directory of a staged job is a shelter. -/
theorem Stages.shelters (stages : family.Stages job workshop scratch staged)
    (areNames : ∀ source ∈ family.sources, Sources.IsFileName source.1) :
    workshop.Shelters scratch staged := by
  obtain ⟨files, sources, makes, prepares⟩ := stages.prepared
  exact shelters_prepare areNames (Workshop.shelters_of_makeTemporary makes) prepares

/-- The compiler did its work and the linker is called. Up to then nothing is different beside the
scratch directory, and afterwards the object at most. -/
structure LinksLast (family : ToolchainFamily) (host : Host) (job : CompileJob)
    (workshop : Workshop) (scratch : Path) (reached : Workshop) (failure : Option ToolFailure)
    (linked : Workshop) : Prop where
  compiled : ∃ staged, family.Stages job workshop scratch staged ∧
    Workshop.Succeeding staged (family.compilerCalls host job scratch) reached
  links : Workshop.Calling reached (family.linkerCall job scratch) failure linked
  ends : (family.compile host job).run workshop =
    ((family.linkerCall job scratch).result failure, linked.removeAll scratch)
  shelters : workshop.Shelters scratch reached
  entry_eq : ∀ location, ¬ workshop.scratchPlace <+: location →
    reached.files.resolve job.object ≠ .ok location →
      linked.files.entry? location = workshop.files.entry? location

/-- What does not get as far as the linker happens in the scratch directory. -/
theorem Stages.linked_or_left (stages : family.Stages job workshop scratch staged) (host : Host)
    (areNames : ∀ source ∈ family.sources, Sources.IsFileName source.1)
    (tools : workshop.toolbox.WritesOutputs) :
    (∃ scratch error left, (family.compile host job).run workshop =
        (.error error, left.removeAll scratch) ∧ workshop.Shelters scratch left) ∨
    ∃ scratch reached failure linked,
      family.LinksLast host job workshop scratch reached failure linked := by
  have runs := stages.run_compile host
  have inTurn := Workshop.callsInTurn_callAll staged (family.commands host job scratch)
  have shelters := stages.shelters areNames
  have theTools : staged.toolbox.WritesOutputs := stages.calls_eq.2 ▸ tools
  have outputs := family.spells_of_compilerCalls host job shelters.spells
    workshop.scratchPlace_ne
  generalize (Workshop.callAll (family.commands host job scratch)).run staged = ended at runs inTurn
  obtain ⟨result, after⟩ := ended
  rcases inTurn.concat_cases with ⟨stops, fails⟩ | ⟨reached, failure, compiled, links, isResult⟩
  · rcases result with error | _
    · exact .inl ⟨scratch, error, after, runs, shelters.trans (stops.agreesBeside theTools outputs)⟩
    · exact absurd rfl fails
  · have reaches := shelters.trans (compiled.agreesBeside theTools outputs)
    have changes := links.changesOutput (compiled.toolbox_eq ▸ theTools)
    refine .inr ⟨scratch, reached, failure, after, ⟨staged, stages, compiled⟩, links, ?_, reaches,
      fun location beside other => ?_⟩
    · rw [runs, isResult]
    · rw [← reaches.agrees.entry_eq location beside]
      by_contra differs
      obtain ⟨output, isOutput, resolves, -, -⟩ := changes.changed location differs
      rw [output?_linkerCall] at isOutput
      cases isOutput
      exact other resolves

/-- A compilation does nothing, or it does not get as far as the linker, or calls it last. -/
theorem compile_cases (host : Host) (job : CompileJob)
    (areNames : ∀ source ∈ family.sources, Sources.IsFileName source.1)
    (tools : workshop.toolbox.WritesOutputs) :
    (∃ error, (family.compile host job).run workshop = (.error error, workshop)) ∨
    (∃ scratch error left, (family.compile host job).run workshop =
        (.error error, left.removeAll scratch) ∧ workshop.Shelters scratch left) ∨
    ∃ scratch reached failure linked,
      family.LinksLast host job workshop scratch reached failure linked := by
  rcases sized : family.checkWordSize job.options.wordSize with error | _
  · exact .inl ⟨error, run_compile_of_wordSize sized⟩
  rcases laid : family.checkLayout job.options.layout with error | _
  · exact .inl ⟨error, run_compile_of_layout sized laid⟩
  rcases accepted_cases host workshop sized laid with
    ⟨fault, runs⟩ | ⟨scratch, files, fault, left, makes, prepares, runs⟩ | ⟨scratch, staged, stages⟩
  · exact .inl ⟨_, runs⟩
  · exact .inr (.inl ⟨scratch, _, left, runs,
      shelters_prepare areNames (Workshop.shelters_of_makeTemporary makes) prepares⟩)
  · exact .inr (stages.linked_or_left host areNames tools)

section Ends

variable {result : Except BuildError Unit} {after : Workshop}

/-- The linker changes nothing but the object. -/
theorem LinksLast.changesOutput {reached linked : Workshop} {failure : Option ToolFailure}
    (last : family.LinksLast host job workshop scratch reached failure linked)
    (tools : workshop.toolbox.WritesOutputs) :
    (family.linkerCall job scratch).ChangesOutput reached.files linked.files := by
  obtain ⟨staged, stages, compiled⟩ := last.compiled
  have same : reached.toolbox = workshop.toolbox := compiled.toolbox_eq.trans stages.calls_eq.2
  exact last.links.changesOutput (same ▸ tools)

/-- There was no scratch directory, or nothing of it is left. -/
theorem scratch_gone (areNames : ∀ source ∈ family.sources, Sources.IsFileName source.1)
    (tools : workshop.toolbox.WritesOutputs)
    (runs : (family.compile host job).run workshop = (result, after)) :
    after = workshop ∨ ∀ location, workshop.scratchPlace <+: location →
      after.files.entry? location = none := by
  rcases compile_cases host job areNames tools with
    ⟨error, fails⟩ | ⟨scratch, error, left, fails, shelters⟩ |
    ⟨scratch, reached, failure, linked, last⟩
  · obtain ⟨-, rfl⟩ := Prod.mk.inj (runs.symm.trans fails)
    exact .inl rfl
  · obtain ⟨-, rfl⟩ := Prod.mk.inj (runs.symm.trans fails)
    exact .inr fun location => shelters.gone shelters.rooted
  · obtain ⟨-, rfl⟩ := Prod.mk.inj (runs.symm.trans last.ends)
    have rooted := (last.changesOutput tools).rooted last.shelters.rooted
    exact .inr fun location => last.shelters.gone rooted

/-- Beside the scratch directory nothing is different unless the linker was called. -/
theorem agrees_or_linksLast (areNames : ∀ source ∈ family.sources, Sources.IsFileName source.1)
    (tools : workshop.toolbox.WritesOutputs)
    (runs : (family.compile host job).run workshop = (result, after)) :
    workshop.files.AgreesBeside workshop.scratchPlace after.files ∨
      ∃ scratch reached failure linked,
        family.LinksLast host job workshop scratch reached failure linked := by
  rcases compile_cases host job areNames tools with
    ⟨error, fails⟩ | ⟨scratch, error, left, fails, shelters⟩ | last
  · obtain ⟨-, same⟩ := Prod.mk.inj (runs.symm.trans fails)
    rw [same]
    exact .inl (refl_of (FileTree.AgreesBeside workshop.scratchPlace) workshop.files)
  · obtain ⟨-, rfl⟩ := Prod.mk.inj (runs.symm.trans fails)
    exact .inl (trans_of (FileTree.AgreesBeside workshop.scratchPlace) shelters.agrees
      (FileTree.agreesBeside_removeAll shelters.spells))
  · exact .inr last

/-- After the linker was called, what is not the object is as it was. -/
theorem LinksLast.entry_after {reached linked : Workshop} {failure : Option ToolFailure}
    (last : family.LinksLast host job workshop scratch reached failure linked)
    (runs : (family.compile host job).run workshop = (result, after))
    (elsewhere : workshop.files.Private workshop.scratchPlace job.object) {location : Location}
    (beside : ¬ workshop.scratchPlace <+: location)
    (other : workshop.files.resolve job.object ≠ .ok location) :
    after.files.entry? location = workshop.files.entry? location := by
  obtain ⟨-, rfl⟩ := Prod.mk.inj (runs.symm.trans last.ends)
  have resolves := (last.shelters.agrees.resolve_eq elsewhere workshop.scratchPlace_ne).1
  have kept := linked.files.entry_removeAll last.shelters.spells beside
  exact kept.trans (last.entry_eq location beside (resolves ▸ other))

end Ends

/-! ## The copy of an operator source -/

/-- The compiler is called once for an operator, for the copy. -/
theorem compilerCalls_operator (isOperator : job.libType = .operator) :
    family.compilerCalls host job scratch =
      [family.compilerCall host job scratch 0 (copyPath job scratch)] := by
  rw [compilerCalls, stagedSources, isOperator]
  rfl

/-- A redirected text is the include of the redirecting header, followed by the text. -/
theorem redirected_eq (text : String) :
    redirected text = "#include \"micrort_device_redirect.h\"\n" ++ text := by
  have line : "#include \"" ++ Sources.redirectHeaderName ++ "\"\n" =
      "#include \"micrort_device_redirect.h\"\n" := by
    decide
  rw [redirected, line]

/-- The copy holds a line that includes the redirect header, and the text that the source has. -/
theorem Stages.copy (stages : family.Stages job workshop scratch staged)
    (isOperator : job.libType = .operator)
    (hidden : workshop.files.Private workshop.scratchPlace job.source) :
    ∃ text, workshop.files.readText job.source = .ok text ∧
      staged.files.read (copyPath job scratch) =
        .ok (Text.encode ("#include \"micrort_device_redirect.h\"\n" ++ text)) := by
  obtain ⟨files, sources, makes, prepares⟩ := stages.prepared
  have made := Workshop.shelters_of_makeTemporary makes
  obtain ⟨_, headed, heads, staging⟩ := Action.run_bind_ok prepares
  have isHeaders : (scratch.join "include").Spells (workshop.scratchPlace ++ ["include".toList]) :=
    made.spells.join workshop.scratchPlace_ne (by decide) (by decide)
  have confined := Sources.confines_writeHeaders isHeaders (by simp) _ made.rooted
  rw [heads] at confined
  have agrees := (made.trans confined).agrees
  rw [stageSources, isOperator] at staging
  obtain ⟨_, _, copies, ends⟩ := Action.run_bind_ok staging
  obtain ⟨text, _, looks, copies⟩ := Action.run_bind_ok copies
  obtain ⟨_, _, writes, answers⟩ := Action.run_bind_ok copies
  obtain ⟨reads, rfl⟩ := Prod.mk.inj looks
  obtain ⟨-, rfl⟩ := Prod.mk.inj answers
  obtain ⟨-, rfl⟩ := Prod.mk.inj ends
  refine ⟨text, ?_, ?_⟩
  · rw [← agrees.readText_eq hidden workshop.scratchPlace_ne]
    exact Action.mapError_eq_ok.mp reads
  · obtain ⟨files, written, rfl⟩ := Workshop.write_ok writes
    rw [← redirected_eq]
    exact FileTree.read_write written

/-- With tools that change no more than their outputs, nothing is left of a scratch directory, and
beside it only the object is different, if the linker was called. The source is not in the scratch
directory. For an operator the compiler is given a line that includes the redirect header and the
text of the source, and nothing is called if there is no text. -/
theorem compile_spares_surroundings (family : ToolchainFamily) (host : Host) (job : CompileJob)
    (workshop : Workshop) (areNames : ∀ source ∈ family.sources, Sources.IsFileName source.1)
    (tools : workshop.toolbox.WritesOutputs) {result : Except BuildError Unit} {after : Workshop}
    (runs : (family.compile host job).run workshop = (result, after)) :
    (after = workshop ∨ ∀ location, workshop.scratchPlace <+: location →
      after.files.entry? location = none) ∧
    (workshop.files.AgreesBeside workshop.scratchPlace after.files ∨
      ∃ scratch reached failure linked,
        family.LinksLast host job workshop scratch reached failure linked) ∧
    (workshop.files.Private workshop.scratchPlace job.object →
      ∀ location, ¬ workshop.scratchPlace <+: location →
        workshop.files.resolve job.object ≠ .ok location →
          after.files.entry? location = workshop.files.entry? location) ∧
    (workshop.files.Private workshop.scratchPlace job.source →
      ∀ location, workshop.files.resolve job.source = .ok location →
        ¬ workshop.scratchPlace <+: location) ∧
    (job.libType = .operator → workshop.files.Private workshop.scratchPlace job.source →
      (∀ scratch staged, family.Stages job workshop scratch staged →
        (∃ left, after = left.removeAll scratch ∧ Workshop.CallsInTurn staged
          [family.compilerCall host job scratch 0 (copyPath job scratch),
            family.linkerCall job scratch] result left) ∧
        ∃ text, workshop.files.readText job.source = .ok text ∧
          staged.files.read (copyPath job scratch) =
            .ok (Text.encode ("#include \"micrort_device_redirect.h\"\n" ++ text))) ∧
      (family.checkWordSize job.options.wordSize = .ok () →
        family.checkLayout job.options.layout = .ok () →
        ∀ fault, workshop.files.readText job.source = .error fault →
          (∃ fault, result = .error (.io fault)) ∧ after.calls = workshop.calls)) := by
  have ends := agrees_or_linksLast areNames tools runs
  refine ⟨scratch_gone areNames tools runs, ends, fun elsewhere location beside other => ?_,
    fun hidden => ?_,
    fun isOperator hidden => ⟨fun scratch staged stages => ?_, fun sized laid fault unread => ?_⟩⟩
  · rcases ends with agrees | ⟨scratch, reached, failure, linked, last⟩
    · exact agrees.entry_eq location beside
    · exact last.entry_after runs elsewhere beside other
  · have same := refl_of (FileTree.AgreesBeside workshop.scratchPlace) workshop.files
    exact (same.resolve_eq hidden workshop.scratchPlace_ne).2
  · refine ⟨?_, stages.copy isOperator hidden⟩
    have inTurn := Workshop.callsInTurn_callAll staged (family.commands host job scratch)
    obtain ⟨rfl, rfl⟩ := Prod.mk.inj (runs.symm.trans (stages.run_compile host))
    rw [commands, compilerCalls_operator isOperator] at inTurn ⊢
    exact ⟨_, rfl, inTurn⟩
  · rcases exists_stages host workshop sized laid with
      ⟨scratch, staged, stages⟩ | ⟨fault, left, fails, same⟩
    · obtain ⟨text, reads, -⟩ := stages.copy isOperator hidden
      rw [unread] at reads
      cases reads
    · obtain ⟨rfl, rfl⟩ := Prod.mk.inj (runs.symm.trans fails)
      exact ⟨⟨fault, rfl⟩, same⟩

/-- The source of an operator is still there after its compilation, and the scratch directory is
not. -/
theorem operator_source_stays :
    let job : CompileJob := ⟨⟨"op.obj"⟩, ⟨"op.c"⟩, .operator, .unset⟩
    let workshop : Workshop :=
      ⟨FileTree.fresh.put ["work".toList, "op.c".toList] (.file (Text.encode "int f;")),
        Simulation.toolbox [⟨"gcc", none, [], 0, none⟩, ⟨"ld", none, [], 0, none⟩], []⟩
    ∃ after, (ToolchainFamily.host.compile .current job).run workshop = (.ok (), after) ∧
      after.files.entry? ["work".toList, "op.c".toList] = some (.file (Text.encode "int f;")) ∧
      ∀ location, workshop.scratchPlace <+: location → after.files.entry? location = none := by
  intro job workshop
  have tools : workshop.toolbox.WritesOutputs := Simulation.writesOutputs _
  have hidden : workshop.files.Private workshop.scratchPlace job.source :=
    ⟨by decide +kernel, by decide +kernel⟩
  have elsewhere : workshop.files.Private workshop.scratchPlace job.object :=
    ⟨by decide +kernel, by decide +kernel⟩
  have resolves : workshop.files.resolve job.source = .ok ["work".toList, "op.c".toList] := by
    have found : (workshop.files.resolve job.source).toOption =
        some ["work".toList, "op.c".toList] := by decide +kernel
    rcases resolved : workshop.files.resolve job.source with fault | location <;>
      rw [resolved] at found <;> cases found
    rfl
  have other : workshop.files.resolve job.object ≠ .ok ["work".toList, "op.c".toList] :=
    fun same => absurd (congrArg Except.toOption same) (by decide +kernel)
  have held : workshop.files.entry? ["work".toList, "op.c".toList] =
      some (.file (Text.encode "int f;")) := by decide +kernel
  have ends : (match (ToolchainFamily.host.compile .current job).run workshop with
      | (.ok _, after) => some after.calls.length
      | (.error _, _) => none) = some 2 := by decide +kernel
  have uncalled : workshop.calls = [] := rfl
  clear_value job workshop
  rcases runs : (ToolchainFamily.host.compile .current job).run workshop with
    ⟨error | _, after⟩ <;> rw [runs] at ends
  · cases ends
  · obtain ⟨gone, -, stays, apart, -⟩ := compile_spares_surroundings ToolchainFamily.host .current
      job workshop (by decide) tools runs
    refine ⟨after, rfl, (stays elsewhere _ (apart hidden _ resolves) other).trans held, ?_⟩
    rcases gone with rfl | gone
    · have two : after.calls.length = 2 := Option.some.inj ends
      rw [uncalled] at two
      cases two
    · exact gone

/-- A job may be refused although its source cannot be read, since the word size comes first. -/
theorem refused_before_reading :
    let job : CompileJob := ⟨⟨"op.obj"⟩, ⟨"missing.c"⟩, .operator,
      { CompileOptions.unset with wordSize := some 64 }⟩
    let workshop : Workshop := ⟨.fresh, Simulation.toolbox [], []⟩
    stm32f746xx ∈ builtins ∧ workshop.toolbox.WritesOutputs ∧
      (workshop.files.readText job.source).toOption = none ∧
      ¬ ∃ fault after, (stm32f746xx.compile .current job).run workshop =
        (.error (.io fault), after) := by
  intro job workshop
  refine ⟨by simp [builtins], Simulation.writesOutputs [], by decide +kernel, ?_⟩
  rintro ⟨fault, after, runs⟩
  have refused : stm32f746xx.checkWordSize job.options.wordSize =
      .error (.argument (.wordSize "arm.stm32f746xx" 32 64)) := rfl
  rw [run_compile_of_wordSize refused] at runs
  cases runs

end ToolchainFamily

end MicroDevice
