import MicroDevice.Proofs.CommandLine.Consoles
import MicroDevice.Proofs.Config.JsonText
import MicroDevice.Proofs.Session.Tidying
import MicroDevice.Proofs.Session.Visiting
import MicroDevice.Proofs.Text.Digits
import MicroDevice.Simulation.Toolbox

/-! # Checking a session

The program tells the phases of a session as it builds, enters, exits and closes it. What it prints
is read back line by line (`toldPhases`): the phases are told in the order of a session's life, up
to the first failure, and whatever fails, the session is given up (`Checked`).
-/

namespace MicroDevice

/-- The runtime that was compiled is described by the contents of a file. -/
theorem Session.artifact_of_compileRuntime {backend : DeviceBackend} {config : DeviceConfig}
    {directory : Path} {before after : World} {runtime : ObjectArtifact}
    (done : (compileRuntime backend config directory).run before = (.ok runtime, after)) :
    ∃ contents, runtime = .ofBytes (directory.join runtimeObjectName) contents := by
  obtain ⟨source, written, -, done⟩ := Action.run_bind_ok done
  obtain ⟨_, compiled, -, looks⟩ := Action.run_bind_ok done
  obtain ⟨found, -⟩ := Prod.mk.inj (World.run_inWorkshop_ok looks).1
  obtain ⟨contents, -, artifact_eq⟩ := ObjectArtifact.ofFile_ok (Action.mapError_eq_ok.mp found)
  exact ⟨contents, artifact_eq⟩

namespace CommandLine

/-! ## Lines that tell phases -/

/-- A text of lines. -/
def linesText (lines : List String) : String :=
  String.join (lines.map (· ++ "\n"))

/-- The phase that a line tells, if it tells one. -/
def phaseOf? (line : List Char) : Option String :=
  if (stateLine "").toList <+: line then
    some (String.ofList (line.drop (stateLine "").toList.length))
  else none

/-- The phases that an output tells, line by line. -/
def toldPhases (output : String) : List String :=
  (output.toList.splitOn '\n').filterMap phaseOf?

/-- The phase told in a state line is read back from it. -/
theorem phaseOf_stateLine (phase : String) : phaseOf? (stateLine phase).toList = some phase := by
  have begins : (stateLine phase).toList = (stateLine "").toList ++ phase.toList := by
    simp [stateLine]
  rw [phaseOf?, begins, if_pos (List.prefix_append _ _), List.drop_left, String.ofList_toList]

/-- Printed lines that hold no line break are split apart again. -/
theorem splitOn_linesText {lines : List String} (single : ∀ line ∈ lines, '\n' ∉ line.toList) :
    (linesText lines).toList.splitOn '\n' = lines.map String.toList ++ [[]] := by
  induction lines with
  | nil => rfl
  | cons line later ih =>
      have begins : (linesText (line :: later)).toList =
          line.toList ++ '\n' :: (linesText later).toList := by
        simp [linesText]
      rw [begins, List.splitOn_append_cons_self_of_not_mem (single line List.mem_cons_self),
        ih fun other member => single other (List.mem_cons_of_mem line member)]
      rfl

/-- Of lines that tell nothing and lines that tell phases, the phases are told. -/
theorem toldPhases_linesText {others told : List String}
    (single : ∀ line ∈ others ++ told.map stateLine, '\n' ∉ line.toList)
    (silent : ∀ line ∈ others, phaseOf? line.toList = none) :
    toldPhases (linesText (others ++ told.map stateLine)) = told := by
  have nothing : others.filterMap (fun line => phaseOf? line.toList) = [] :=
    List.filterMap_eq_nil_iff.mpr silent
  have all : told.filterMap (fun phase => phaseOf? (stateLine phase).toList) = told := by
    simp [phaseOf_stateLine]
  rw [toldPhases, splitOn_linesText single, List.filterMap_append, List.filterMap_map,
    List.filterMap_append, List.filterMap_map]
  exact (congrArg₂ (· ++ · ++ []) nothing all).trans (List.append_nil told)

/-! ## What a session is shown with -/

/-- The lines that a session is shown with before its phase. -/
def sessionLines (sessionName : String) (session : Session DeviceChannel) : List String := [
  "session " ++ sessionName ++ " for '" ++ session.config.deviceId ++ "'",
  "  runtime:   " ++ session.runtime.text,
  "  transport: " ++ session.transport.method.name]

/-- The lines that describe a session tell no phase. -/
theorem silent_sessionLines (sessionName : String) (session : Session DeviceChannel) :
    ∀ line ∈ sessionLines sessionName session, phaseOf? line.toList = none := by
  intro line member
  simp only [sessionLines, List.mem_cons, List.not_mem_nil, or_false] at member
  rcases member with rfl | rfl | rfl <;>
    simp [phaseOf?, stateLine, List.cons_prefix_cons]

theorem newline_not_mem_toDigits (number : Nat) : '\n' ∉ Nat.toDigits 10 number :=
  fun member => absurd (Text.isDigit_of_mem_toDigits member) (by decide)

/-- A digest holds no line break. -/
theorem newline_not_mem_digest (contents : Bytes) : '\n' ∉ (Sha256.digest contents).toList := by
  have isDigit : ∀ digit < 16, '\n' ≠ Nat.digitChar digit := by decide
  intro member
  rw [Sha256.digest, String.toList_ofList, List.mem_flatMap] at member
  obtain ⟨byte, -, inByte⟩ := member
  have small := byte.toNat_lt
  simp only [Sha256.hexByte, List.mem_cons, List.not_mem_nil, or_false] at inByte
  rcases inByte with high | low
  · exact isDigit _ (by omega) high
  · exact isDigit _ (by omega) low

/-- The description of an artifact at a path of one line is a single line. -/
theorem newline_not_mem_artifact {path : Path} (single : '\n' ∉ path.text.toList)
    (contents : Bytes) : '\n' ∉ (ObjectArtifact.ofBytes path contents).text.toList := by
  have digits := newline_not_mem_digest contents
  have short : '\n' ∉ (Sha256.digest contents).toList.take 12 := fun member =>
    digits (List.mem_of_mem_take member)
  have size := newline_not_mem_toDigits contents.length
  simp only [ObjectArtifact.text, ObjectArtifact.ofBytes, String.toList_append, List.mem_append,
    String.toList_ofList, single, short, false_or, or_false, Nat.toString_eq_repr,
    Nat.toList_repr, size]
  decide

/-- Joining single-line names gives a single-line path. -/
theorem newline_not_mem_join {directory : Path} {name : String}
    (outer : '\n' ∉ directory.text.toList) (inner : '\n' ∉ name.toList) :
    '\n' ∉ (directory.join name).text.toList := by
  unfold Path.join
  split <;> simp [outer, inner]

/-- The session of a built-in device is shown with single lines. -/
theorem single_sessionLines {sessionName : String} (named : '\n' ∉ sessionName.toList)
    {config : DeviceConfig} {session : Session DeviceChannel} {world opened : World}
    {host : Host} {opener : Opener DeviceChannel}
    (built : (Session.build ⟨Registry.builtins host, host, opener⟩ config).run world =
      (.ok session, opened)) :
    ∀ line ∈ sessionLines sessionName session, '\n' ∉ line.toList := by
  obtain ⟨number, directory_eq⟩ := (Session.opened_of_build built).directory
  obtain ⟨_, housed, compiled, -, -, -, compiles, -, -, -, got, config_eq⟩ := Session.build_ok built
  have device : '\n' ∉ session.config.deviceId.toList := by
    have builtins : ∀ family ∈ ToolchainFamily.builtins, '\n' ∉ family.deviceId.toList := by decide
    obtain ⟨family, isBuiltin, id_eq, -⟩ :=
      Registry.family_of_builtins (Registry.find_of_get got)
    rw [config_eq, ← id_eq]
    exact builtins family isBuiltin
  have runtime : '\n' ∉ session.runtime.text.toList := by
    obtain ⟨contents, artifact_eq⟩ := Session.artifact_of_compileRuntime compiles
    have digits := newline_not_mem_toDigits number
    rw [artifact_eq]
    refine newline_not_mem_artifact (newline_not_mem_join ?_ (by decide)) contents
    simp [directory_eq, FileTree.temporaryPath, digits]
  have method : '\n' ∉ session.transport.method.name.toList := by
    cases session.transport.method <;> decide
  intro line member
  simp only [sessionLines, List.mem_cons, List.not_mem_nil, or_false] at member
  rcases member with rfl | rfl | rfl
  · simp [named, device]
  · simp [runtime]
  · simp [method]

/-! ## Visits on the console -/

/-- The phases that are told while a session is visited with success. -/
def visitedPhases : List String := ["entered", "exited", "closed"]

/-- The end of a visit, once the session was exited from: it is closed. -/
theorem run_closing (result : Except SessionError Unit) (console : Console) :
    let outcome := (do
      Console.printLine (stateLine "exited")
      attempting "closing session" ((Action.ofResult result).widen sessionFailure)
      Console.printLine (stateLine "closed") : Action Console Failure Unit).run console
    let told := if result.isOk then ["exited", "closed"] else ["exited"]
    outcome.1.isOk = result.isOk ∧ outcome.2.world = console.world ∧
      outcome.2.output = console.output ++ linesText (told.map stateLine) := by
  simp only [Action.run_bind, Console.run_printLine, run_attempting, Action.run_widen,
    Action.run_ofResult]
  rcases result with error | _
  · refine ⟨rfl, rfl, ?_⟩
    simp [Except.isOk, Except.toBool, linesText, Except.mapError]
  · refine ⟨rfl, rfl, ?_⟩
    simp [Except.isOk, Except.toBool, linesText, Except.mapError, String.append_assoc]

/-- An open session is visited and given up, and its phases are told up to the first failure. -/
theorem run_visitSession {session : Session DeviceChannel} (isOpen : session.phase = .channelOpen)
    (notClosed : session.isClosed = false) {console : Console}
    {outcome : Except Failure Unit × Console} (ran : (visitSession session).run console = outcome) :
    ∃ visit after told, Live.Visiting ⟨session, console.world⟩ visit after ∧
      outcome.2.world = after.drop ∧
      outcome.2.output = console.output ++ linesText (told.map stateLine) ∧
      told <+: visitedPhases ∧ (outcome.1.isOk = true ↔ told = visitedPhases) := by
  have visiting := @Live.visiting DeviceChannel _ ⟨session, console.world⟩ isOpen
  have ran : visitSession session console = outcome := ran
  rw [← ran, visitSession]
  dsimp only
  generalize Live.within _ (⟨session, console.world⟩ : Live DeviceChannel) = visited at visiting ⊢
  obtain ⟨⟨inside, ending⟩, after⟩ := visited
  dsimp only at visiting ⊢
  refine ⟨(inside, ending), after, ?_⟩
  cases visiting with
  | failed asked =>
      refine ⟨[], .failed asked, rfl, rfl, List.nil_prefix, ?_⟩
      simp [visitedPhases, Except.isOk, Except.toBool]
  | stuck entered exited =>
      refine ⟨["entered"], .stuck entered exited, rfl, rfl, by decide, ?_⟩
      simp [visitedPhases, Except.isOk, Except.toBool]
  | returned entered exited =>
      have returned := Live.Visiting.returned entered exited
      have given := returned.world_close notClosed
      dsimp only
      rw [returned.phase_eq]
      rcases closes : after.close with ⟨result, world⟩
      rw [closes] at given
      obtain ⟨succeeds, same, output⟩ := run_closing result
        ⟨world, console.output ++ linesText [stateLine "entered"], console.registered⟩
      refine ⟨"entered" :: if result.isOk then ["exited", "closed"] else ["exited"], returned,
        same.trans given, output.trans ?_, ?_, ?_⟩
      · simp [linesText, String.append_assoc]
      · split <;> decide
      · refine (iff_of_eq (congrArg (· = true) succeeds)).trans ?_
        cases result.isOk <;> decide

/-! ## The command -/

/-- All that checking a session can come to: it stops before there is a session, with nothing
printed, or the session is shown, visited and given up. -/
inductive Checked (sessionName : String) (world : World) :
    (succeeded : Bool) → (output : String) → (last : World) → Prop
  | unloaded : Checked sessionName world false "" world
  | unbuilt {config : DeviceConfig} {error : SessionError} {after : World}
      (failed : (Session.build ⟨Registry.builtins .current, .current, openDevice⟩ config).run
        world = (.error error, after)) :
      Checked sessionName world false "" after
  | visited {config : DeviceConfig} {session : Session DeviceChannel} {opened : World}
      {visit : Option Phase × Ending} {after : Live DeviceChannel} {succeeded : Bool}
      {told : List String}
      (built : (Session.build ⟨Registry.builtins .current, .current, openDevice⟩ config).run
        world = (.ok session, opened))
      (visiting : Live.Visiting ⟨session, opened⟩ visit after)
      (tells : told <+: visitedPhases) (whole : succeeded = true ↔ told = visitedPhases) :
      Checked sessionName world succeeded
        (linesText (sessionLines sessionName session ++ ("channel-open" :: told).map stateLine))
        after.drop

/-- With its configuration loaded, a session is built, shown and visited. -/
theorem run_checkSession (sessionName : String) {file : Path} {world : World}
    {config : DeviceConfig} (loads : DeviceConfig.load world.files file = .ok config) :
    (checkSession sessionName file).run ⟨world, "", []⟩ =
      match (Session.build ⟨Registry.builtins .current, .current, openDevice⟩ config).run world with
      | (.error error, after) =>
          (.error ((sessionFailure error).during ("opening session for '" ++ config.deviceId ++ "'")),
            ⟨after, "", ToolchainFamily.builtins.map (·.deviceId)⟩)
      | (.ok session, opened) =>
          (visitSession session).run
            ⟨opened, linesText (sessionLines sessionName session ++ [stateLine session.phase.name]),
              ToolchainFamily.builtins.map (·.deviceId)⟩ := by
  unfold checkSession
  rw [Action.run_bind, run_loadConfig, loads]
  dsimp only [Except.mapError]
  rw [Action.run_bind, Console.run_registry]
  dsimp only
  rw [Action.run_bind, run_attempting, Console.run_inWorld]
  dsimp only
  rcases (Session.build ⟨Registry.builtins .current, .current, openDevice⟩ config).run world with
    ⟨error | session, opened⟩
  · rfl
  · dsimp only [Except.mapError]
    rw [Action.run_bind, Console.run_printLines, String.empty_append]
    rfl

/-- What checking a session prints, answers and leaves behind, phase by phase. -/
theorem checked (sessionName : String) (file : Path) (world : World) :
    let outcome := (checkSession sessionName file).run ⟨world, "", []⟩
    Checked sessionName world outcome.1.isOk outcome.2.output outcome.2.world := by
  rcases loads : DeviceConfig.load world.files file with error | config
  · have ran : (checkSession sessionName file).run ⟨world, "", []⟩ =
        (.error ((configFailure error).during ("loading " ++ file.text)), ⟨world, "", []⟩) := by
      unfold checkSession
      rw [Action.run_bind, run_loadConfig, loads]
      rfl
    rw [ran]
    exact .unloaded
  · have ran := run_checkSession sessionName loads
    rcases built : (Session.build ⟨Registry.builtins .current, .current, openDevice⟩ config).run
      world with ⟨error | session, opened⟩ <;> rw [built] at ran
    · rw [ran]
      exact .unbuilt built
    · have opens := Session.opened_of_build built
      obtain ⟨visit, after, told, visiting, last, output, tells, whole⟩ :=
        run_visitSession opens.phase_eq opens.notClosed ran.symm
      have shown : ((checkSession sessionName file).run ⟨world, "", []⟩).2.output = linesText
          (sessionLines sessionName session ++ ("channel-open" :: told).map stateLine) := by
        rw [output, opens.phase_eq]
        simp [linesText, sessionLines, Phase.name, String.append_assoc]
      dsimp only
      rw [shown, last]
      exact .visited built visiting tells whole

/-! ## The program -/

/-- The command performed by the program is the check, with its status and its output. -/
theorem perform_checkSession (file : Path) (verbosity : Nat) (sessionName : String)
    (world : World) :
    let outcome := (checkSession sessionName file).run ⟨world, "", []⟩
    ∃ ended, Invocation.perform ⟨.checkSession file, verbosity⟩ sessionName world =
        (ended, outcome.2.world) ∧
      (ended.status = 0 ↔ outcome.1.isOk = true) ∧ ended.output = outcome.2.output := by
  unfold Invocation.perform Request.perform
  dsimp only
  rcases (checkSession sessionName file).run ⟨world, "", []⟩ with ⟨failure | _, console⟩
  · exact ⟨_, rfl, by simp [Except.isOk, Except.toBool, failure.status_ne_zero], rfl⟩
  · exact ⟨_, rfl, by simp [Except.isOk, Except.toBool], rfl⟩

/-- The phases that are told are those that were reached. -/
theorem Checked.told {sessionName : String} (named : '\n' ∉ sessionName.toList)
    {world last : World} {succeeded : Bool} {output : String}
    (checked : Checked sessionName world succeeded output last) :
    toldPhases output <+: "channel-open" :: visitedPhases ∧
      (succeeded = true ↔ toldPhases output = "channel-open" :: visitedPhases) := by
  have silence : toldPhases "" = [] := by decide
  cases checked with
  | unloaded | unbuilt failed =>
      rw [silence]
      exact ⟨List.nil_prefix, by decide⟩
  | visited built visiting tells whole =>
      rename_i told
      have words : ∀ phase ∈ "channel-open" :: told, '\n' ∉ (stateLine phase).toList := by
        have all : ∀ phase ∈ "channel-open" :: visitedPhases,
            '\n' ∉ (stateLine phase).toList := by decide
        intro phase member
        exact all phase ((List.cons_prefix_cons.mpr ⟨rfl, tells⟩).subset member)
      have single := List.forall_mem_append.mpr
        ⟨single_sessionLines named built, List.forall_mem_map.mpr words⟩
      rw [toldPhases_linesText single (silent_sessionLines _ _)]
      exact ⟨List.cons_prefix_cons.mpr ⟨rfl, tells⟩, whole.trans (List.cons_inj_right _).symm⟩

/-- Whatever checking a session comes to, its channel is settled and nothing is left behind. -/
theorem Checked.leaves {sessionName : String} {world last : World} {succeeded : Bool}
    {output : String} (checked : Checked sessionName world succeeded output last) :
    (∃ events, last.journal = world.journal ++ events ∧ SettlesChannels events) ∧
      Session.TidiedUp world last := by
  cases checked with
  | unloaded =>
      exact ⟨⟨[], (List.append_nil _).symm, .inl ⟨rfl, rfl⟩⟩, Session.tidiedUp_of_files rfl⟩
  | unbuilt failed =>
      exact ⟨Session.settles_of_build_error failed, Session.tidiedUp_of_build_error failed⟩
  | visited built visiting tells whole =>
      have opens := Session.opened_of_build built
      obtain ⟨job, params, journal⟩ := opens.journal_eq
      obtain ⟨⟨events, extended, visited⟩, files⟩ := visiting.drop opens.notClosed
      have whole := extended.trans (congrArg (· ++ events) journal)
      rw [List.append_assoc] at whole
      exact ⟨⟨_, whole, visited.settles _ job params⟩, Session.tidiedUp_of_build_ok built files⟩

/-- However checking a session ends, the phases that are told are the first of a session's life in
order, and the program succeeds just if these are all. A channel that was opened is closed once,
after one exit if it was entered. Nothing is left in the directory for temporary files. -/
theorem checkSession_settles (file : Path) (verbosity : Nat) {sessionName : String}
    (named : '\n' ∉ sessionName.toList) (world : World) :
    ∃ ended last,
      Invocation.perform ⟨.checkSession file, verbosity⟩ sessionName world = (ended, last) ∧
      toldPhases ended.output <+: ["channel-open", "entered", "exited", "closed"] ∧
      (ended.status = 0 ↔
        toldPhases ended.output = ["channel-open", "entered", "exited", "closed"]) ∧
      (∃ events, last.journal = world.journal ++ events ∧ SettlesChannels events) ∧
      Session.TidiedUp world last := by
  have checked := checked sessionName file world
  obtain ⟨begins, whole⟩ := checked.told named
  obtain ⟨settled, tidied⟩ := checked.leaves
  obtain ⟨ended, performs, status, output⟩ :=
    perform_checkSession file verbosity sessionName world
  refine ⟨ended, _, performs, ?_, ?_, settled, tidied⟩
  · rw [output]
    exact begins
  · rw [status, output]
    exact whole

/-- A configuration for the host itself. -/
def hostConfig : DeviceConfig :=
  { Simulation.benchConfig with deviceId := "host" }

/-- A world with the configuration in a file, and with a linker whose objects hold headers
alone. -/
def hostWorld : World where
  workshop := {
    files := FileTree.fresh.put ["work".toList, "host.json".toList]
      (.file (Text.encode hostConfig.toJson))
    toolbox := fun _ call files =>
      if call.tool = "ld" then
        Simulation.ScriptedTool.deliver (call.arguments.getLast?.getD "")
          (Simulation.codeImage []) files
      else (.exited 0 [], files)
    calls := [] }
  network := ⟨none, []⟩
  journal := []

/-- The check of the host configuration succeeds. -/
theorem checkSession_host :
    ((checkSession "0" ⟨"host.json"⟩).run ⟨hostWorld, "", []⟩).1.isOk = true := by
  have writes : FileTree.fresh.write ⟨"host.json"⟩ (Text.encode hostConfig.toJson) =
      .ok hostWorld.files := rfl
  have loads : DeviceConfig.load hostWorld.files ⟨"host.json"⟩ = .ok hostConfig := by
    rw [DeviceConfig.load_write writes]
    exact hostConfig.ofJson_toJson
  rw [run_checkSession "0" loads]
  decide +kernel

/-- The check of a session on the host succeeds, so all phases are told. -/
theorem host_session_settles :
    ∃ ended last,
      Invocation.perform ⟨.checkSession ⟨"host.json"⟩, 0⟩ "0" hostWorld = (ended, last) ∧
      ended.status = 0 ∧
      toldPhases ended.output = ["channel-open", "entered", "exited", "closed"] ∧
      (∃ events, last.journal = hostWorld.journal ++ events ∧ SettlesChannels events) ∧
      Session.TidiedUp hostWorld last := by
  have oneLine : '\n' ∉ "0".toList := by decide
  obtain ⟨ended, last, performs, -, whole, settled, tidied⟩ :=
    checkSession_settles ⟨"host.json"⟩ 0 oneLine hostWorld
  obtain ⟨other, performsSo, status, -⟩ := perform_checkSession ⟨"host.json"⟩ 0 "0" hostWorld
  obtain ⟨rfl, -⟩ := Prod.mk.inj (performs.symm.trans performsSo)
  have succeeds := status.mpr checkSession_host
  exact ⟨ended, last, performs, succeeds, whole.mp succeeds, settled, tidied⟩

end CommandLine

end MicroDevice
