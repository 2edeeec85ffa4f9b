import MicroDevice.Proofs.Build.Commands
import MicroDevice.Proofs.Files.Elsewhere

/-! # The outputs of tools

The output of a call is named by its last `-o`. Tools that change no more than their outputs
(`Toolbox.WritesOutputs`), as the scripted ones do (`Simulation.writesOutputs`), change nothing else
in the file tree. A compiler is called for an output in the scratch directory, and the linker for
the object of the job.
-/

namespace MicroDevice

namespace ToolCall

/-- The argument after the last `-o` that one follows. -/
def outputIn? : List String → Option String
  | [] => none
  | word :: later => (outputIn? later).or (if word = "-o" then later.head? else none)

/-- The output that a call names. -/
def output? (call : ToolCall) : Option Path :=
  (outputIn? call.arguments).map Path.mk

/-- Two trees differ at most at the file that the output of a call denotes. -/
structure ChangesOutput (call : ToolCall) (before after : FileTree) : Prop where
  workingDirectory_eq : after.workingDirectory = before.workingDirectory
  changed : ∀ location, after.entry? location ≠ before.entry? location →
    ∃ output, call.output? = some output ∧ before.resolve output = .ok location ∧
      before.entry? location ≠ some .directory ∧ after.entry? location ≠ some .directory

/-- Words in front do not hide the output named later. -/
theorem outputIn?_append {words : List String} {output : String}
    (named : outputIn? words = some output) (first : List String) :
    outputIn? (first ++ words) = some output := by
  induction first with
  | nil => exact named
  | cons word first ih => rw [List.cons_append, outputIn?, ih, Option.some_or]

theorem outputIn?_cons_of_ne {word : String} (ordinary : word ≠ "-o") (later : List String) :
    outputIn? (word :: later) = outputIn? later := by
  rw [outputIn?, if_neg ordinary, Option.or_none]

end ToolCall

/-- Whatever they are called for, tools change no more than their outputs. -/
def Toolbox.WritesOutputs (toolbox : Toolbox) : Prop :=
  ∀ earlier (call : ToolCall) files, call.ChangesOutput files (toolbox earlier call files).2

namespace ToolCall.ChangesOutput

variable {call : ToolCall} {before after : FileTree} {place : Location}

/-- A call whose output is below a place changes nothing beside it. -/
theorem agreesBeside (changes : call.ChangesOutput before after)
    (below : ∀ output, call.output? = some output → ∃ names, output.Spells (place ++ names)) :
    before.AgreesBeside place after := by
  refine ⟨changes.workingDirectory_eq, fun location beside => ?_⟩
  by_contra differs
  obtain ⟨output, isOutput, resolves, -, -⟩ := changes.changed location differs
  obtain ⟨names, spells⟩ := below output isOutput
  obtain ⟨rfl, -, -⟩ := (before.resolve_eq_ok_iff spells location).mp resolves
  exact beside (List.prefix_append place names)

/-- Directories stay. -/
theorem rooted (changes : call.ChangesOutput before after) (rooted : before.Rooted place) :
    after.Rooted place := by
  intro above isAbove differs
  have directory := rooted above isAbove differs
  by_contra changed
  obtain ⟨-, -, -, isFile, -⟩ := changes.changed above fun same => changed (same.trans directory)
  exact isFile directory

end ToolCall.ChangesOutput

/-! ## Scripted tools -/

namespace ToolCall

variable {call : ToolCall} {files written : FileTree} {output : Path} {contents : Bytes}

/-- Without an output mark there is no output. -/
theorem outputIn?_of_not_mem {words : List String} (unmarked : "-o" ∉ words) :
    outputIn? words = none := by
  induction words with
  | nil => rfl
  | cons word later ih =>
      rw [List.mem_cons, not_or] at unmarked
      rw [outputIn?_cons_of_ne (Ne.symm unmarked.1), ih unmarked.2]

theorem changesOutput_refl (call : ToolCall) (files : FileTree) : call.ChangesOutput files files :=
  ⟨rfl, fun _ differs => absurd rfl differs⟩

/-- Writing the output of a call changes nothing else. -/
theorem changesOutput_write (named : call.output? = some output)
    (writes : files.write output contents = .ok written) : call.ChangesOutput files written := by
  obtain ⟨reached, resolves, isFile, rfl⟩ := FileTree.write_ok writes
  refine ⟨rfl, fun location differs => ?_⟩
  obtain rfl : location = reached := by
    by_contra beside
    exact differs (files.entry_put_of_ne beside _)
  refine ⟨output, named, resolves, isFile, ?_⟩
  have below : location ≠ [] := by
    rintro rfl
    exact isFile files.entry_root
  rw [FileTree.entry_put, if_neg below, if_pos rfl]
  nofun

end ToolCall

namespace Simulation

/-- The output of a scripted tool is that of its call. -/
theorem outputIn?_of_getLast? {arguments : List String} {output : String}
    (last : (arguments.reverse.takeWhile (· ≠ "-o")).getLast? = some output)
    (marked : (arguments.reverse.takeWhile (· ≠ "-o")).length ≠ arguments.length) :
    ToolCall.outputIn? arguments = some output := by
  have split : arguments.reverse.takeWhile (· ≠ "-o") ++ arguments.reverse.dropWhile (· ≠ "-o") =
      arguments.reverse := List.takeWhile_append_dropWhile
  have marks := List.head?_dropWhile_not (fun word => decide (word ≠ "-o")) arguments.reverse
  have unmarked : "-o" ∉ arguments.reverse.takeWhile (· ≠ "-o") := fun member => by
    simpa using List.all_eq_true.mp List.all_takeWhile "-o" member
  obtain ⟨others, following⟩ := List.getLast?_eq_some_iff.mp last
  rcases rest : arguments.reverse.dropWhile (· ≠ "-o") with _ | ⟨mark, earlier⟩ <;>
    rw [rest] at split marks
  · have lengths := congrArg List.length split
    rw [List.append_nil, List.length_reverse] at lengths
    exact absurd lengths marked
  · obtain rfl : mark = "-o" := by simpa using marks
    rw [following] at split unmarked
    have whole : arguments = earlier.reverse ++ "-o" :: output :: others.reverse := by
      rw [← List.reverse_reverse arguments, ← split]
      simp
    have none : ToolCall.outputIn? (output :: others.reverse) = none :=
      ToolCall.outputIn?_of_not_mem (by simpa [or_comm] using unmarked)
    rw [whole, ToolCall.outputIn?_append]
    rw [ToolCall.outputIn?, none]
    rfl

namespace ScriptedTool

variable {call : ToolCall}

/-- Delivering contents to the output of a call changes nothing else. -/
theorem changesOutput_deliver {output : String}
    (named : ToolCall.outputIn? call.arguments = some output) (contents : Bytes)
    (files : FileTree) :
    call.ChangesOutput files (deliver output contents files).2 := by
  unfold deliver
  split
  · rename_i written writes
    exact ToolCall.changesOutput_write (by rw [ToolCall.output?, named]; rfl) writes
  · exact call.changesOutput_refl files

/-- A scripted tool changes nothing but the output of its call. -/
theorem changesOutput_work (tool : ScriptedTool) (call : ToolCall) (files : FileTree) :
    call.ChangesOutput files (tool.work call.arguments files).2 := by
  have same := call.changesOutput_refl files
  unfold work
  dsimp only
  split
  · exact same
  · rename_i output last
    split
    · exact same
    · rename_i marked
      have delivers := changesOutput_deliver (outputIn?_of_getLast? last marked)
      split
      · split
        · exact delivers _ files
        · exact same
      · split
        · exact delivers _ files
        · split
          · exact delivers _ files
          · exact same

end ScriptedTool

/-- Scripted tools write their outputs, or nothing. -/
theorem writesOutputs (tools : List ScriptedTool) : (toolbox tools).WritesOutputs := by
  intro earlier call files
  unfold toolbox
  split
  · rename_i tool _
    unfold ScriptedTool.respond
    split
    · exact call.changesOutput_refl files
    · exact tool.changesOutput_work call files
  · exact call.changesOutput_refl files

end Simulation

namespace ToolchainFamily

variable {family : ToolchainFamily} {host : Host} {job : CompileJob} {scratch : Path}
  {place : Location}

/-! ## The outputs of the commands -/

/-- Objects have plain file names. -/
theorem isFileName_objectName (index : Nat) (source : Path) :
    Sources.IsFileName (s!"{index}_" ++ source.fileStem?.getD "source" ++ ".o") := by
  have name := objectName_toList index source
  refine ⟨?_, Path.plain_of_mem (?_ : '_' ∈ _) (by decide)⟩
  · have inStem : '/' ∉ (source.fileStem?.getD "source").toList := by
      rcases isStem : source.fileStem? with _ | stem
      · decide
      · exact Path.noSlash_of_fileStem? isStem
    have inDigits : '/' ∉ Nat.toDigits 10 index := fun member =>
      absurd (Text.isDigit_of_mem_toDigits member) (by decide)
    rw [name]
    simp [inStem, inDigits]
  · rw [name]
    simp

/-- The path of an object spells a location below the scratch directory. -/
theorem spells_objectPath (spells : scratch.Spells place) (named : place ≠ []) (index : Nat)
    (source : Path) : ∃ names, (objectPath scratch index source).Spells (place ++ names) := by
  obtain ⟨noSlash, plain⟩ := isFileName_objectName index source
  exact ⟨_, spells.join named noSlash plain⟩

/-- A path that spells a location is not taken for the output mark. -/
theorem ne_of_spells {path : Path} (spells : path.Spells place) : path.text ≠ "-o" := by
  intro same
  have absolute := spells.absolute
  rw [Path.isAbsolute, same] at absolute
  exact absurd absolute (by decide)

/-- No other argument of a compiler is taken for its output. -/
theorem output?_compilerCall (spells : scratch.Spells place) (named : place ≠ []) (index : Nat)
    (source : Path) :
    (family.compilerCall host job scratch index source).output? =
      some (objectPath scratch index source) := by
  obtain ⟨names, isObject⟩ := spells_objectPath spells named index source
  have isHeaders := spells.join named (by decide : '/' ∉ "include".toList) (by decide)
  have directories : ToolCall.outputIn?
      (job.source.parent?.elim [] fun directory => ["-I", directory.text]) = none := by
    rcases job.source.parent? with _ | directory
    · rfl
    · simp [ToolCall.outputIn?]
  have last : ToolCall.outputIn? (["-o", (objectPath scratch index source).text] ++
      ["-I", (scratch.join "include").text] ++
      (job.source.parent?.elim [] fun directory => ["-I", directory.text])) =
        some (objectPath scratch index source).text := by
    simp only [List.cons_append, List.nil_append]
    rw [ToolCall.outputIn?, ToolCall.outputIn?_cons_of_ne (ne_of_spells isObject),
      ToolCall.outputIn?_cons_of_ne (by decide), ToolCall.outputIn?_cons_of_ne
        (ne_of_spells isHeaders), directories]
    rfl
  have named := ToolCall.outputIn?_append last
    (family.backendFlags host job.options ++ job.options.flags ++ [source.text])
  simp only [← List.append_assoc] at named
  rw [ToolCall.output?, compilerCall, named]
  rfl

/-- The output of the linker is the object of the job. -/
theorem output?_linkerCall : (family.linkerCall job scratch).output? = some job.object := by
  have last : ToolCall.outputIn? ["-o", job.object.text] = some job.object.text := by
    simp [ToolCall.outputIn?]
  rw [ToolCall.output?, linkerCall, ToolCall.outputIn?_append last]
  rfl

/-- The outputs of the compiler are below the scratch directory. -/
theorem spells_of_compilerCalls (family : ToolchainFamily) (host : Host) (job : CompileJob)
    (spells : scratch.Spells place) (named : place ≠ []) :
    ∀ call ∈ family.compilerCalls host job scratch, ∀ output, call.output? = some output →
      ∃ names, output.Spells (place ++ names) := by
  intro call member output isOutput
  obtain ⟨index, inside, rfl⟩ := List.mem_mapIdx.mp member
  rw [output?_compilerCall spells named] at isOutput
  cases isOutput
  exact spells_objectPath spells named index _

end ToolchainFamily

end MicroDevice
