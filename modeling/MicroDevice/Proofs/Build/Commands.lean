import MicroDevice.Proofs.Build.Failures
import MicroDevice.Proofs.Build.Making
import MicroDevice.Proofs.Text.Digits
import MicroDevice.Simulation.Toolbox

/-! # The commands of a compilation

Tools are called one after another until one of them fails (`Workshop.CallsInTurn`). A
compilation puts its sources in place and calls the compiler for each of them, and then the
linker for their objects (`ToolchainFamily.commands`), in turn
(`ToolchainFamily.compile_calls_in_turn`). Only the staged files are different for a runtime and
for an operator.
-/

namespace MicroDevice

namespace ToolCall

/-- Call the tool with the arguments. -/
def perform (call : ToolCall) : Action Workshop BuildError Unit :=
  Workshop.callTool call.tool call.arguments

/-- The result of a call that fails, or does not. -/
def result (call : ToolCall) : Option ToolFailure → Except BuildError Unit
  | none => .ok ()
  | some failure => .error (.tool call.tool failure)

end ToolCall

namespace Workshop

/-- A tool is called and fails, or does not. Calls of tools that ran are recorded. -/
inductive Calling (before : Workshop) (call : ToolCall) : Option ToolFailure → Workshop → Prop
  | unpassable (refused : (call.tool :: call.arguments).all isPassable = false) :
      Calling before call (some .nulInCommand) before
  | notStarted {fault : IoFault} {files : FileTree}
      (passable : (call.tool :: call.arguments).all isPassable = true)
      (ends : before.toolbox before.calls call before.files = (.notStarted fault, files)) :
      Calling before call (some (.notStarted fault)) { before with files }
  | failed {status : Nat} {stderr : Bytes} {files : FileTree}
      (passable : (call.tool :: call.arguments).all isPassable = true)
      (ends : before.toolbox before.calls call before.files = (.exited status stderr, files))
      (fails : status ≠ 0) :
      Calling before call (some (.exited status stderr))
        { before with files, calls := before.calls ++ [call] }
  | succeeded {stderr : Bytes} {files : FileTree}
      (passable : (call.tool :: call.arguments).all isPassable = true)
      (ends : before.toolbox before.calls call before.files = (.exited 0 stderr, files)) :
      Calling before call none { before with files, calls := before.calls ++ [call] }

/-- Tools are called one after another, and none of them fails. -/
inductive Succeeding : Workshop → List ToolCall → Workshop → Prop
  | nil (workshop : Workshop) : Succeeding workshop [] workshop
  | cons {before middle after : Workshop} {call : ToolCall} {later : List ToolCall}
      (calling : Calling before call none middle) (succeeding : Succeeding middle later after) :
      Succeeding before (call :: later) after

/-- Tools are called one after another up to the first that fails. -/
inductive CallsInTurn (before : Workshop) :
    List ToolCall → Except BuildError Unit → Workshop → Prop
  | done {calls : List ToolCall} {after : Workshop} (succeeding : Succeeding before calls after) :
      CallsInTurn before calls (.ok ()) after
  | stopped {passed later : List ToolCall} {call : ToolCall} {failure : ToolFailure}
      {reached after : Workshop} (succeeding : Succeeding before passed reached)
      (calling : Calling reached call (some failure) after) :
      CallsInTurn before (passed ++ call :: later) (.error (.tool call.tool failure)) after

/-- The tools are the same, and none of them was called. -/
structure Furnishes (before after : Workshop) : Prop where
  toolbox_eq : after.toolbox = before.toolbox
  calls_eq : after.calls = before.calls

instance : IsPreorder Workshop Furnishes where
  refl _ := ⟨rfl, rfl⟩
  trans _ _ _ first second :=
    ⟨second.toolbox_eq.trans first.toolbox_eq, second.calls_eq.trans first.calls_eq⟩

/-- Perform calls one after another. -/
def callAll : List ToolCall → Action Workshop BuildError Unit
  | [] => return
  | call :: later => do
      call.perform
      callAll later

variable {before middle after reached : Workshop} {call : ToolCall} {calls later : List ToolCall}
  {failure : Option ToolFailure} {result : Except BuildError Unit}

/-- Performing a call gives the failure and the workshop that `Calling` relates it to. -/
theorem Calling.run_eq (calling : Calling before call failure after) :
    call.perform.run before = (call.result failure, after) := by
  unfold ToolCall.perform callTool Action.run
  cases calling with
  | unpassable refused => simp only [refused]; rfl
  | notStarted passable ends => simp only [passable, if_true, ends]; rfl
  | failed passable ends fails => simp only [passable, if_true, ends, if_neg fails]; rfl
  | succeeded passable ends => simp only [passable, if_true, ends]; rfl

/-- Each call fails, or does not. -/
theorem exists_calling (before : Workshop) (call : ToolCall) :
    ∃ failure after, Calling before call failure after := by
  rcases passes : (call.tool :: call.arguments).all isPassable
  · exact ⟨_, _, .unpassable passes⟩
  · rcases ends : before.toolbox before.calls call before.files with
      ⟨fault | ⟨status, stderr⟩, files⟩
    · exact ⟨_, _, .notStarted passes ends⟩
    · by_cases succeeds : status = 0
      · subst succeeds
        exact ⟨_, _, .succeeded passes ends⟩
      · exact ⟨_, _, .failed passes ends succeeds⟩

theorem Calling.toolbox_eq (calling : Calling before call failure after) :
    after.toolbox = before.toolbox := by
  cases calling <;> rfl

theorem Succeeding.toolbox_eq (succeeding : Succeeding before calls after) :
    after.toolbox = before.toolbox := by
  induction succeeding with
  | nil => rfl
  | cons calling _ ih => exact ih.trans calling.toolbox_eq

/-- Calls that succeed are all recorded, in order. -/
theorem Succeeding.calls_eq (succeeding : Succeeding before calls after) :
    after.calls = before.calls ++ calls := by
  induction succeeding with
  | nil => exact (List.append_nil _).symm
  | cons calling _ ih =>
      cases calling
      rw [ih, List.append_assoc, List.singleton_append]

/-- Calls that succeed one by one succeed together. -/
theorem Succeeding.run_eq (succeeding : Succeeding before calls after) :
    (callAll calls).run before = (.ok (), after) := by
  induction succeeding with
  | nil => rfl
  | cons calling _ ih => rw [callAll, Action.run_bind_of_ok calling.run_eq, ih]

theorem callAll_append (calls later : List ToolCall) :
    callAll (calls ++ later) = callAll calls >>= fun _ => callAll later := by
  induction calls with
  | nil => rfl
  | cons call calls ih => rw [List.cons_append, callAll, ih, callAll, Action.bind_bind]

theorem callAll_singleton (call : ToolCall) : callAll [call] = call.perform := by
  funext workshop
  change (call.perform >>= fun _ => pure ()).run workshop = call.perform.run workshop
  rw [Action.run_bind]
  rcases call.perform.run workshop with ⟨_ | _, _⟩ <;> rfl

/-- A call that succeeds comes before the turns of the later ones. -/
theorem CallsInTurn.cons (calling : Calling before call none middle)
    (inTurn : CallsInTurn middle later result after) :
    CallsInTurn before (call :: later) result after := by
  cases inTurn with
  | done succeeding => exact .done (.cons calling succeeding)
  | stopped succeeding stops => exact .stopped (.cons calling succeeding) stops

/-- Performed one after another, the calls are made in turn. -/
theorem callsInTurn_callAll (before : Workshop) (calls : List ToolCall) :
    CallsInTurn before calls ((callAll calls).run before).1 ((callAll calls).run before).2 := by
  induction calls generalizing before with
  | nil => exact .done (.nil before)
  | cons call later ih =>
      obtain ⟨failure, middle, calling⟩ := exists_calling before call
      rw [callAll]
      rcases failure with _ | failure
      · rw [Action.run_bind_of_ok calling.run_eq]
        exact (ih middle).cons calling
      · rw [Action.run_bind_of_error calling.run_eq]
        exact .stopped (.nil before) calling

/-- Making the calls gives the result and the workshop that `CallsInTurn` relates them to. -/
theorem CallsInTurn.run_eq (inTurn : CallsInTurn before calls result after) :
    (callAll calls).run before = (result, after) := by
  cases inTurn with
  | done succeeding => exact succeeding.run_eq
  | stopped succeeding calling =>
      rw [callAll_append, Action.run_bind_of_ok succeeding.run_eq, callAll,
        Action.run_bind_of_error calling.run_eq]

/-- Calls in turn succeed when each of them does. -/
theorem CallsInTurn.ok_iff (inTurn : CallsInTurn before calls result after) :
    result = .ok () ↔ ∃ reached, Succeeding before calls reached := by
  constructor
  · rintro rfl
    cases inTurn with
    | done succeeding => exact ⟨after, succeeding⟩
  · rintro ⟨reached, succeeding⟩
    exact (Prod.mk.inj (inTurn.run_eq.symm.trans succeeding.run_eq)).1

/-- What is recorded of calls in turn is that the first ones of them ran. -/
theorem CallsInTurn.exists_recorded (inTurn : CallsInTurn before calls result after) :
    ∃ ran, ran <+: calls ∧ after.calls = before.calls ++ ran := by
  cases inTurn with
  | done succeeding => exact ⟨calls, List.prefix_refl calls, succeeding.calls_eq⟩
  | stopped succeeding calling =>
      have passed := succeeding.calls_eq
      cases calling with
      | unpassable => exact ⟨_, List.prefix_append _ _, passed⟩
      | notStarted => exact ⟨_, List.prefix_append _ _, passed⟩
      | failed =>
          refine ⟨_, List.prefix_append_right_inj _ |>.mpr (List.prefix_append [_] _), ?_⟩
          rw [passed, List.append_assoc]

/-- The last of the calls is made if those before it succeeded. Otherwise it is one of those that
fails. -/
theorem CallsInTurn.concat_cases {last : ToolCall}
    (inTurn : CallsInTurn before (calls ++ [last]) result after) :
    (CallsInTurn before calls result after ∧ result ≠ .ok ()) ∨
      ∃ reached failure, Succeeding before calls reached ∧ Calling reached last failure after ∧
        result = last.result failure := by
  have ran := inTurn.run_eq
  have first := callsInTurn_callAll before calls
  rw [callAll_append] at ran
  generalize outcome : (callAll calls).run before = reached at first
  obtain ⟨answer, reached⟩ := reached
  cases first with
  | done succeeding =>
      obtain ⟨failure, left, calling⟩ := exists_calling reached last
      rw [Action.run_bind_of_ok outcome, callAll_singleton, calling.run_eq] at ran
      obtain ⟨rfl, rfl⟩ := Prod.mk.inj ran
      exact .inr ⟨reached, failure, succeeding, calling, rfl⟩
  | stopped succeeding calling =>
      rw [Action.run_bind_of_error outcome] at ran
      obtain ⟨rfl, rfl⟩ := Prod.mk.inj ran
      exact .inl ⟨.stopped succeeding calling, nofun⟩

/-! ## Work without tools -/

/-- The action works on files alone, and only for these does it fail. -/
structure FilesOnly {Answer : Type} (action : Action Workshop BuildError Answer) : Prop where
  moves : action.Moves Furnishes
  fails : action.FailsOnly fun error => ∃ fault, error = .io fault

/-- Actions on files alone compose. -/
theorem composes_filesOnly : Composes fun _ action => FilesOnly action where
  answer value := ⟨Action.moves_pure value, Action.failsOnly_pure value⟩
  bind first second :=
    ⟨first.moves.bind fun value => (second value).moves,
      first.fails.bind fun value => (second value).fails⟩

variable {Answer : Type}

/-- Looking at files calls no tool. -/
theorem filesOnly_look (view : FileTree → Except IoFault Answer) : FilesOnly (look view) := by
  refine ⟨moves_look view, fun workshop error later failed => ?_⟩
  obtain ⟨looked, -⟩ := Prod.mk.inj failed
  rcases viewed : view workshop.files with fault | answer <;> rw [viewed] at looked <;> cases looked
  exact ⟨fault, rfl⟩

theorem filesOnly_alter (change : FileTree → Except IoFault FileTree) :
    FilesOnly ((alter change).widen .io) :=
  ⟨Action.Moves.widen (moves_alter fun _ _ _ => ⟨rfl, rfl⟩) BuildError.io,
    Action.FailsOnly.widen fun _ fault _ _ => ⟨fault, rfl⟩⟩

theorem filesOnly_write (path : Path) (contents : Bytes) : FilesOnly (write path contents) :=
  filesOnly_alter _

theorem filesOnly_makeDirectories (path : Path) : FilesOnly (makeDirectories path) :=
  filesOnly_alter _

end Workshop

namespace Path

/-- Names that do not begin with a slash are all joined to a directory in the same way. -/
theorem exists_lead (directory : Path) :
    ∃ lead : String, ∀ name : String, name.toList.head? ≠ some '/' →
      directory.join name = ⟨lead ++ name⟩ := by
  refine ⟨match directory.text.toList.getLast? with
    | none => ""
    | some '/' => directory.text
    | some _ => directory.text ++ "/", fun name relative => ?_⟩
  unfold join
  split <;> simp_all

end Path

namespace ToolchainFamily

/-! ## What a compilation calls -/

/-- The flag for code that may be far away, which hosts need that run the code. -/
def codeModelFlags (family : ToolchainFamily) (host : Host) : List String :=
  if family.runsOnHost && host.isLinux && host.is64Bit then ["-mcmodel=large"] else []

/-- The flag for Thumb code, if that is asked for and the family does not have the flag. -/
def thumbFlags (family : ToolchainFamily) (options : CompileOptions) : List String :=
  if options.thumbMode && !family.flags.contains thumbFlag then [thumbFlag] else []

/-- The compiler flags that do not come from the caller. -/
def backendFlags (family : ToolchainFamily) (host : Host) (options : CompileOptions) :
    List String :=
  baseFlags ++ family.flags ++ family.codeModelFlags host ++ family.thumbFlags options

/-- The prefix of the names of the tools. -/
def toolPrefix (family : ToolchainFamily) (options : CompileOptions) : String :=
  options.toolchainPrefix.getD family.toolchainPrefix

/-- The call that compiles the source at a position. -/
def compilerCall (family : ToolchainFamily) (host : Host) (job : CompileJob) (scratch : Path)
    (index : Nat) (source : Path) : ToolCall where
  tool := family.toolPrefix job.options ++ "gcc"
  arguments := family.backendFlags host job.options ++ job.options.flags ++ [source.text] ++
    ["-o", (objectPath scratch index source).text] ++ ["-I", (scratch.join "include").text] ++
    (job.source.parent?.elim [] fun directory => ["-I", directory.text])

/-- The copy of an operator source. -/
def copyPath (job : CompileJob) (scratch : Path) : Path :=
  scratch.join (job.source.fileName?.getD "operator.c")

/-- The sources of a job once they are in place. -/
def stagedSources (family : ToolchainFamily) (job : CompileJob) (scratch : Path) : List Path :=
  match job.libType with
  | .runtime =>
      let device := family.sources.map fun source => (scratch.join "device").join source.1
      job.source :: device.filter Sources.isCompilable
  | .operator => [copyPath job scratch]

/-- The objects of a job, in the order of its sources. -/
def stagedObjects (family : ToolchainFamily) (job : CompileJob) (scratch : Path) : List Path :=
  (family.stagedSources job scratch).mapIdx (objectPath scratch)

/-- The calls that compile the sources, in order. -/
def compilerCalls (family : ToolchainFamily) (host : Host) (job : CompileJob) (scratch : Path) :
    List ToolCall :=
  (family.stagedSources job scratch).mapIdx (family.compilerCall host job scratch)

/-- The call that links the objects. -/
def linkerCall (family : ToolchainFamily) (job : CompileJob) (scratch : Path) : ToolCall where
  tool := family.toolPrefix job.options ++ "ld"
  arguments := ["-relocatable"] ++ (family.stagedObjects job scratch).map (·.text) ++
    ["-o", job.object.text]

/-- The calls of a compilation. -/
def commands (family : ToolchainFamily) (host : Host) (job : CompileJob) (scratch : Path) :
    List ToolCall :=
  family.compilerCalls host job scratch ++ [family.linkerCall job scratch]

/-- Put headers and sources in place. -/
def prepare (family : ToolchainFamily) (job : CompileJob) (scratch : Path) :
    Action Workshop BuildError (List Path) := do
  let _ ← Sources.writeHeaders (scratch.join "include")
  family.stageSources job scratch

/-- The options of a job are accepted, and its sources were put in place in a scratch
directory. -/
structure Stages (family : ToolchainFamily) (job : CompileJob) (workshop : Workshop)
    (scratch : Path) (staged : Workshop) : Prop where
  sized : family.checkWordSize job.options.wordSize = .ok ()
  laid : family.checkLayout job.options.layout = .ok ()
  prepared : ∃ files sources, workshop.files.makeTemporary ".tmp" = .ok (scratch, files) ∧
    (family.prepare job scratch).run { workshop with files } = (.ok sources, staged)

section Flags

variable (family : ToolchainFamily) (host : Host) (options : CompileOptions)

/-- The flags that every compilation of a family has ask for thumb mode exactly when the family's
own do. -/
theorem contains_thumbFlag :
    (baseFlags ++ family.flags ++ family.codeModelFlags host).contains thumbFlag =
      family.flags.contains thumbFlag := by
  unfold codeModelFlags
  split <;> simp [baseFlags, thumbFlag]

/-- The flags of the compiler are those of the backend, followed by those of the options. -/
theorem compilerFlags_eq :
    family.compilerFlags options host = family.backendFlags host options ++ options.flags := by
  have own := family.contains_thumbFlag host
  unfold codeModelFlags at own
  unfold compilerFlags backendFlags thumbFlags codeModelFlags
  dsimp only
  rw [own]

/-- The backend asks for Thumb code as often as the family does, and once if the family does not
but the options do. -/
theorem count_thumbFlag :
    (family.backendFlags host options).count thumbFlag =
      max (family.flags.count thumbFlag) (if options.thumbMode then 1 else 0) := by
  have base : baseFlags.count thumbFlag = 0 := by decide
  have model : (family.codeModelFlags host).count thumbFlag = 0 := by
    unfold codeModelFlags
    split <;> decide
  simp only [backendFlags, List.count_append, base, model, thumbFlags]
  by_cases has : thumbFlag ∈ family.flags
  · rcases options.thumbMode <;> simp [has]
  · have none := List.count_eq_zero.mpr has
    rcases options.thumbMode <;> simp [has, none]

/-- A family that is known from the start asks for Thumb code once, or not at all. -/
theorem count_thumbFlag_of_builtins (builtin : family ∈ builtins) :
    (family.backendFlags host options).count thumbFlag =
      if thumbFlag ∈ family.flags ∨ options.thumbMode then 1 else 0 := by
  have once : ∀ family ∈ builtins, family.flags.count thumbFlag ≤ 1 := by decide
  have atMost := once family builtin
  rw [count_thumbFlag]
  by_cases has : thumbFlag ∈ family.flags
  · have atLeast := List.count_pos_iff.mpr has
    rw [if_pos (Or.inl has)]
    split <;> omega
  · rw [List.count_eq_zero.mpr has, Nat.zero_max]
    simp [has]

end Flags

section Staging

variable (family : ToolchainFamily) (host : Host) (job : CompileJob) (scratch : Path)

/-- The name of an object is its number, an underscore, the stem of its source and the ending. -/
theorem objectName_toList (index : Nat) (source : Path) :
    (s!"{index}_" ++ source.fileStem?.getD "source" ++ ".o").toList =
      Nat.toDigits 10 index ++ '_' :: ((source.fileStem?.getD "source").toList ++ ".o".toList) := by
  simp [toString, Nat.toList_repr]

/-- The name of an object begins with the digits of its position and a mark that is no digit. -/
theorem objectPath_text : ∃ lead : String, ∀ index source, ∃ rest : List Char,
    (objectPath scratch index source).text.toList =
      lead.toList ++ (Nat.toDigits 10 index ++ '_' :: rest) := by
  obtain ⟨lead, joined⟩ := scratch.exists_lead
  refine ⟨lead, fun index source => ⟨(source.fileStem?.getD "source").toList ++ ".o".toList, ?_⟩⟩
  have name := objectName_toList index source
  have relative : (s!"{index}_" ++ source.fileStem?.getD "source" ++ ".o").toList.head? ≠
      some '/' := by
    rw [name]
    rcases digits : Nat.toDigits 10 index with _ | ⟨digit, digits⟩
    · exact absurd digits Nat.toDigits_ne_nil
    · have isDigit := Text.isDigit_of_mem_toDigits (digits ▸ List.mem_cons_self : digit ∈ _)
      rintro ⟨⟩
      exact absurd isDigit (by decide)
  rw [objectPath, joined _ relative, String.toList_append, name]

/-- Objects of different positions are different. -/
theorem objectPath_inj {first second : Nat} {source other : Path}
    (same : objectPath scratch first source = objectPath scratch second other) :
    first = second := by
  have unmarked (index : Nat) : '_' ∉ Nat.toDigits 10 index := fun member =>
    absurd (Text.isDigit_of_mem_toDigits member) (by decide)
  obtain ⟨lead, texts⟩ := objectPath_text scratch
  obtain ⟨rest, text⟩ := texts first source
  obtain ⟨remains, spelled⟩ := texts second other
  rw [same, spelled, List.append_cancel_left_eq] at text
  have parts := congrArg (fun name => (name.splitOn '_').head?) text
  rw [List.splitOn_append_cons_self, List.splitOn_append_cons_self,
    List.splitOn_eq_singleton (unmarked _), List.splitOn_eq_singleton (unmarked _)] at parts
  have digits : Nat.toDigits 10 second = Nat.toDigits 10 first := Option.some.inj parts
  have values := congrArg (fun digits => Nat.ofDigitChars 10 digits 0) digits
  simpa only [Nat.ofDigitChars_ten_toDigits] using values.symm

/-- No two sources have the same object. -/
theorem nodup_stagedObjects : (family.stagedObjects job scratch).Nodup := by
  refine List.pairwise_iff_getElem.mpr fun first second inside within before same => ?_
  simp only [stagedObjects, List.getElem_mapIdx] at same
  exact before.ne (objectPath_inj scratch same)

/-- The call of the linker is none of the compiler's. -/
theorem linkerCall_not_mem :
    family.linkerCall job scratch ∉ family.compilerCalls host job scratch := by
  intro member
  obtain ⟨index, inside, same⟩ := List.mem_mapIdx.mp member
  have tools := congrArg ToolCall.tool same
  have letters : "gcc" = "ld" := (String.append_right_inj _).mp tools
  exact absurd letters (by decide)

/-- Compiling sources is calling the compiler for each of them, with an object of its own. -/
theorem compileEach_eq (tool : String) (arguments : Path → Path → List String) (index : Nat)
    (sources : List Path) :
    compileEach tool arguments scratch index sources =
      Workshop.callAll (sources.mapIdx fun position source =>
        ⟨tool, arguments source (objectPath scratch (index + position) source)⟩) >>= fun _ =>
          return sources.mapIdx fun position source => objectPath scratch (index + position) source
    := by
  induction sources generalizing index with
  | nil => rfl
  | cons source later ih =>
      have shift (position : Nat) : index + 1 + position = index + (position + 1) := by omega
      rw [compileEach, ih (index + 1), List.mapIdx_cons, List.mapIdx_cons, Workshop.callAll,
        Action.bind_bind]
      simp only [shift, Action.bind_bind]
      rfl

/-- Headers are put into the directory that is answered. -/
theorem writeHeaders_bind {Next : Type} (directory : Path)
    (next : Path → Action Workshop BuildError Next) :
    Sources.writeHeaders directory >>= next =
      Sources.writeHeaders directory >>= fun _ => next directory := by
  unfold Sources.writeHeaders
  simp only [Action.bind_bind]
  rfl

/-- Writing files answers the paths of those that can be compiled. -/
theorem writeEach_ok {directory : Path} {files : List Sources.SourceFile} {before after : Workshop}
    {paths : List Path} (writes : (Sources.writeEach directory files).run before =
      (.ok paths, after)) :
    paths = (files.map fun source => directory.join source.1).filter Sources.isCompilable := by
  induction files generalizing before after paths with
  | nil =>
      cases writes
      rfl
  | cons source files ih =>
      obtain ⟨_, written, -, writes⟩ := Action.run_bind_ok writes
      obtain ⟨others, _, rest, ends⟩ := Action.run_bind_ok writes
      have answers := Except.ok.inj (Prod.mk.inj ends).1
      rw [← answers, ih rest, List.map_cons, List.filter_cons]

/-- What is put in place are the staged sources. -/
theorem prepare_ok {before after : Workshop} {sources : List Path}
    (prepares : (family.prepare job scratch).run before = (.ok sources, after)) :
    sources = family.stagedSources job scratch := by
  obtain ⟨_, _, -, staging⟩ := Action.run_bind_ok prepares
  unfold stageSources at staging
  unfold stagedSources
  cases kind : job.libType <;> rw [kind] at staging
  case runtime =>
    obtain ⟨support, _, writes, ends⟩ := Action.run_bind_ok staging
    obtain ⟨_, _, -, writes⟩ := Action.run_bind_ok writes
    have answers := Except.ok.inj (Prod.mk.inj ends).1
    rw [← answers, writeEach_ok writes]
  case operator =>
    obtain ⟨copy, _, copies, ends⟩ := Action.run_bind_ok staging
    obtain ⟨_, _, -, copies⟩ := Action.run_bind_ok copies
    obtain ⟨_, _, -, answers⟩ := Action.run_bind_ok copies
    have isCopy := Except.ok.inj (Prod.mk.inj answers).1
    have only := Except.ok.inj (Prod.mk.inj ends).1
    rw [← only, ← isCopy]
    rfl

/-- The work of a compilation is to put its sources in place and to perform its commands. -/
theorem compileIn_eq : family.compileIn host job scratch =
    family.prepare job scratch >>= fun _ =>
      Workshop.callAll (family.commands host job scratch) := by
  have staging : family.compileIn host job scratch =
      family.prepare job scratch >>= fun sources =>
        compileEach (family.toolPrefix job.options ++ "gcc")
            (compilerArguments (family.compilerFlags job.options host) (scratch.join "include") job)
            scratch 0 sources >>= fun objects =>
          Workshop.callTool (family.toolPrefix job.options ++ "ld")
            (linkerArguments objects job.object) := by
    unfold compileIn prepare
    rw [writeHeaders_bind, Action.bind_bind]
    rfl
  have compiles (index : Nat) (source : Path) :
      (⟨family.toolPrefix job.options ++ "gcc",
        compilerArguments (family.compilerFlags job.options host) (scratch.join "include") job
          source (objectPath scratch index source)⟩ : ToolCall) =
        family.compilerCall host job scratch index source := by
    unfold compilerArguments compilerCall
    rw [compilerFlags_eq]
    rcases job.source.parent? <;> simp
  rw [staging]
  funext workshop
  change Action.run _ workshop = Action.run _ workshop
  rw [Action.run_bind, Action.run_bind]
  rcases prepares : (family.prepare job scratch).run workshop with ⟨error | sources, staged⟩
  · rfl
  · cases family.prepare_ok job scratch prepares
    dsimp only
    rw [compileEach_eq, Action.bind_bind, commands, Workshop.callAll_append]
    simp only [compiles, Nat.zero_add]
    rw [Workshop.callAll_singleton]
    rfl

/-- No tool is needed to put sources in place. -/
theorem filesOnly_prepare : Workshop.FilesOnly (family.prepare job scratch) := by
  have parts : family.HoldsInStaging job scratch fun _ action => Workshop.FilesOnly action := {
    composes := Workshop.composes_filesOnly
    looks := Workshop.filesOnly_look
    makes directory _ := Workshop.filesOnly_makeDirectories directory
    writes file contents _ := Workshop.filesOnly_write file contents }
  exact parts.composes.bind parts.writeHeaders fun _ => parts.stageSources

end Staging

section Compiling

variable {family : ToolchainFamily} {host : Host} {job : CompileJob} {scratch : Path}
  {workshop staged : Workshop}

/-- A job whose options are accepted is worked on in a scratch directory. -/
theorem run_compile_of_accepted (host : Host) (workshop : Workshop)
    (sized : family.checkWordSize job.options.wordSize = .ok ())
    (laid : family.checkLayout job.options.layout = .ok ()) :
    (family.compile host job).run workshop =
      match workshop.files.makeTemporary ".tmp" with
      | .error fault => (.error (.io fault), workshop)
      | .ok (scratch, files) =>
          (((family.compileIn host job scratch).run { workshop with files }).1,
            ((family.compileIn host job scratch).run { workshop with files }).2.removeAll scratch)
    := by
  rw [family.run_compile host sized, laid]
  rcases makes : workshop.files.makeTemporary ".tmp" with fault | ⟨scratch, files⟩ <;>
    simp only [Workshop.run_inTemporary, makes]

/-- Staging calls no tool. -/
theorem Stages.calls_eq (stages : family.Stages job workshop scratch staged) :
    staged.calls = workshop.calls ∧ staged.toolbox = workshop.toolbox := by
  obtain ⟨files, sources, -, prepares⟩ := stages.prepared
  have furnished := (family.filesOnly_prepare job scratch).moves { workshop with files }
  rw [prepares] at furnished
  exact ⟨furnished.calls_eq, furnished.toolbox_eq⟩

/-- Once its sources are in place, a compilation performs its commands and removes the scratch
directory. -/
theorem Stages.run_compile (stages : family.Stages job workshop scratch staged) (host : Host) :
    (family.compile host job).run workshop =
      (((Workshop.callAll (family.commands host job scratch)).run staged).1,
        ((Workshop.callAll (family.commands host job scratch)).run staged).2.removeAll scratch)
    := by
  obtain ⟨files, sources, makes, prepares⟩ := stages.prepared
  rw [run_compile_of_accepted host workshop stages.sized stages.laid, makes]
  dsimp only
  rw [compileIn_eq, Action.run_bind_of_ok prepares]

/-- A refused word size ends a compilation before anything is done. -/
theorem run_compile_of_wordSize {error : BuildError}
    (refused : family.checkWordSize job.options.wordSize = .error error) :
    (family.compile host job).run workshop = (.error error, workshop) := by
  rw [compile, Action.run_bind, Action.run_ofResult, refused]

/-- A refused layout ends a compilation, once the word size is accepted. -/
theorem run_compile_of_layout {error : BuildError}
    (sized : family.checkWordSize job.options.wordSize = .ok ())
    (refused : family.checkLayout job.options.layout = .error error) :
    (family.compile host job).run workshop = (.error error, workshop) := by
  rw [family.run_compile host sized, refused]

/-- A job that is accepted fails as its scratch directory is made or as its sources are put in
place, or they are in place. -/
theorem accepted_cases (host : Host) (workshop : Workshop)
    (sized : family.checkWordSize job.options.wordSize = .ok ())
    (laid : family.checkLayout job.options.layout = .ok ()) :
    (∃ fault, (family.compile host job).run workshop = (.error (.io fault), workshop)) ∨
    (∃ scratch files fault left, workshop.files.makeTemporary ".tmp" = .ok (scratch, files) ∧
      (family.prepare job scratch).run { workshop with files } = (.error (.io fault), left) ∧
      (family.compile host job).run workshop = (.error (.io fault), left.removeAll scratch)) ∨
    ∃ scratch staged, family.Stages job workshop scratch staged := by
  have runs := run_compile_of_accepted host workshop sized laid
  rcases makes : workshop.files.makeTemporary ".tmp" with fault | ⟨scratch, files⟩ <;>
    rw [makes] at runs
  · exact .inl ⟨fault, runs⟩
  · rcases prepares : (family.prepare job scratch).run { workshop with files } with
      ⟨error | sources, left⟩
    · obtain ⟨fault, rfl⟩ := (family.filesOnly_prepare job scratch).fails _ _ _ prepares
      dsimp only at runs
      rw [compileIn_eq, Action.run_bind_of_error prepares] at runs
      exact .inr (.inl ⟨scratch, files, fault, left, rfl, prepares, runs⟩)
    · exact .inr (.inr ⟨scratch, left, sized, laid, files, sources, makes, prepares⟩)

/-- A job that is accepted has its sources put in place, or it fails for files before a tool is
called. -/
theorem exists_stages (host : Host) (workshop : Workshop)
    (sized : family.checkWordSize job.options.wordSize = .ok ())
    (laid : family.checkLayout job.options.layout = .ok ()) :
    (∃ scratch staged, family.Stages job workshop scratch staged) ∨
      ∃ fault after, (family.compile host job).run workshop = (.error (.io fault), after) ∧
        after.calls = workshop.calls := by
  rcases accepted_cases host workshop sized laid with
    ⟨fault, runs⟩ | ⟨scratch, files, fault, left, -, prepares, runs⟩ | stages
  · exact .inr ⟨fault, workshop, runs, rfl⟩
  · have furnished := (family.filesOnly_prepare job scratch).moves { workshop with files }
    rw [prepares] at furnished
    exact .inr ⟨fault, left.removeAll scratch, runs, furnished.calls_eq⟩
  · exact .inl stages

/-- A job is refused for its word size, or else for its layout, before anything is done. Once the
sources of an accepted job are in place, the compiler is called for each of them and then the linker
for their objects, up to the first call that fails. The result is the failure of that call. -/
theorem compile_calls_in_turn (family : ToolchainFamily) (host : Host) (job : CompileJob)
    (workshop : Workshop) :
    (∀ error, family.checkWordSize job.options.wordSize = .error error →
      (family.compile host job).run workshop = (.error error, workshop)) ∧
    (∀ error, family.checkWordSize job.options.wordSize = .ok () →
      family.checkLayout job.options.layout = .error error →
        (family.compile host job).run workshop = (.error error, workshop)) ∧
    ∀ scratch staged, family.Stages job workshop scratch staged →
      staged.calls = workshop.calls ∧ staged.toolbox = workshop.toolbox ∧
      (family.stagedObjects job scratch).Nodup ∧
      (family ∈ builtins → (family.backendFlags host job.options).count thumbFlag =
        if thumbFlag ∈ family.flags ∨ job.options.thumbMode then 1 else 0) ∧
      ∃ result after,
        (family.compile host job).run workshop = (result, after.removeAll scratch) ∧
        Workshop.CallsInTurn staged (family.commands host job scratch) result after ∧
        (result = .ok () ↔
          ∃ reached, Workshop.Succeeding staged (family.commands host job scratch) reached) ∧
        ∃ ran, ran <+: family.commands host job scratch ∧ after.calls = workshop.calls ++ ran ∧
          (family.linkerCall job scratch ∈ ran →
            ∃ reached, Workshop.Succeeding staged (family.compilerCalls host job scratch) reached)
    := by
  refine ⟨fun error refused => run_compile_of_wordSize refused, fun error sized refused =>
    run_compile_of_layout sized refused, fun scratch staged stages => ?_⟩
  have inTurn := Workshop.callsInTurn_callAll staged (family.commands host job scratch)
  refine ⟨stages.calls_eq.1, stages.calls_eq.2, family.nodup_stagedObjects job scratch,
    family.count_thumbFlag_of_builtins host _, _, _, stages.run_compile host, inTurn,
    inTurn.ok_iff, ?_⟩
  obtain ⟨ran, begins, recorded⟩ := inTurn.exists_recorded
  refine ⟨ran, begins, stages.calls_eq.1 ▸ recorded, fun links => ?_⟩
  rcases inTurn.concat_cases with ⟨stops, -⟩ | ⟨reached, _, succeeding, -⟩
  · obtain ⟨compiled, within, stopped⟩ := stops.exists_recorded
    have same : ran = compiled := List.append_cancel_left (recorded.symm.trans stopped)
    exact absurd (within.subset (same ▸ links)) (family.linkerCall_not_mem host job scratch)
  · exact ⟨reached, succeeding⟩

/-- The compiler refuses the second source of a runtime, so nothing is linked. -/
theorem calls_stop_at_second_source :
    let job : CompileJob := ⟨⟨"rt.obj"⟩, ⟨"rt.c"⟩, .runtime, { CompileOptions.unset with
      toolchainPrefix := some "" }⟩
    let workshop : Workshop :=
      ⟨FileTree.fresh.put ["work".toList, "rt.c".toList] (.file []),
        Simulation.toolbox [⟨"gcc", some 2, [], 1, none⟩], []⟩
    ∃ scratch staged after, riscvSpike.Stages job workshop scratch staged ∧
      (riscvSpike.compile .current job).run workshop =
        (.error (.tool "gcc" (.exited 1 [])), after.removeAll scratch) ∧
      Workshop.CallsInTurn staged (riscvSpike.commands .current job scratch)
        (.error (.tool "gcc" (.exited 1 []))) after ∧
      after.calls.length = 2 := by
  intro job workshop
  have sized : riscvSpike.checkWordSize job.options.wordSize = .ok () := rfl
  have laid : riscvSpike.checkLayout job.options.layout = .ok () := rfl
  have ends : (match (riscvSpike.compile .current job).run workshop with
      | (.error error, after) => some (error, after.calls.length)
      | (.ok _, _) => none) = some (.tool "gcc" (.exited 1 []), 2) := by decide +kernel
  -- from here on only these facts about the job and the workshop matter
  clear_value job workshop
  rcases exists_stages .current workshop sized laid with
    ⟨scratch, staged, stages⟩ | ⟨fault, after, ran, -⟩
  · obtain ⟨-, -, -, -, result, after, ran, inTurn, -⟩ :=
      (compile_calls_in_turn riscvSpike .current job workshop).2.2 scratch staged stages
    rw [ran] at ends
    rcases result with error | _
    · obtain ⟨rfl, two⟩ := Prod.mk.inj (Option.some.inj ends)
      exact ⟨scratch, staged, after, stages, ran, inTurn, two⟩
    · cases ends
  · rw [ran] at ends
    cases ends

end Compiling

end ToolchainFamily

end MicroDevice
