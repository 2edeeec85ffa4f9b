import MicroDevice.Session.Basic

/-! # Scripts of session operations

A script is a run of operations on a session: entering it, which gives a guard, releasing,
exiting or forgetting guards in any order, exiting, scopes with a body of their own, and
builds. A body has the guards that were there before, and those it leaves stay. Playing a
script reports each operation with its outcome, the phase after it, and what was asked of
others meanwhile.
-/

namespace MicroDevice

/-- A guard: the number of the entry that it was given for. The session does not look at
it. -/
structure Guard where
  entry : Nat
  deriving DecidableEq, Repr

/-- An operation on a session. A guard is named by its place among those there are, the newest
first. -/
inductive Step where
  | enter
  /-- Enter and release the guard at once. -/
  | visit
  /-- Release a guard. -/
  | dropGuard (index : Nat)
  /-- Exit through a guard. -/
  | exitGuard (index : Nat)
  /-- Forget a guard without releasing it. -/
  | forgetGuard (index : Nat)
  | exit
  | phase
  | inspect
  | cross (libType : LibType) (request : ExportRequest)
  | createModule (module : SourceModule)
  /-- A scope whose body runs steps and then ends in some way. -/
  | within (body : List Step) (ending : Ending)

/-- What can be seen of a session. -/
structure SessionView where
  config : DeviceConfig
  backendId : String
  transport : Transport
  runtime : ObjectArtifact
  /-- Whether the file of the runtime is there. -/
  present : Bool

/-- What came of an operation. -/
inductive Outcome (Report : Type) where
  | done (result : Except SessionError Unit)
  | entered (result : Except SessionError Phase)
  /-- Whether there was a guard. -/
  | guarded (present : Bool)
  | phase (phase : Phase)
  | seen (view : SessionView)
  | built (result : Except BuildError ObjectArtifact)
  | loaded (result : Except SessionError MicroModule)
  | scope (reports : List Report) (ending : Ending)

/-- The report of an operation. -/
inductive Report where
  | mk (name : String) (outcome : Outcome Report) (phase : Option Phase) (events : List Event)

/-- A session on which a script is played. -/
structure Stage (Kind : Type) where
  live : Live Kind
  /-- The guards that have not been released or forgotten, the newest first. -/
  guards : List Guard
  /-- The number of events that have been reported. -/
  told : Nat

namespace Stage

variable {Kind : Type} [Channel Kind]

/-- A session that was built in a world, before the first step. -/
def start (session : Session Kind) (world : World) : Stage Kind :=
  ⟨⟨session, world⟩, [], world.journal.length⟩

/-- Report an operation that has come to an end. -/
def report (stage : Stage Kind) (name : String) (outcome : Outcome Report) :
    Report × Stage Kind :=
  let journal := stage.live.world.journal
  (.mk name outcome (some stage.live.session.phase) (journal.drop stage.told),
    { stage with told := journal.length })

/-- Carry out an action of the session. -/
def act {Answer : Type} (stage : Stage Kind) (action : Action (Live Kind) SessionError Answer) :
    Except SessionError Answer × Stage Kind :=
  let (result, live) := action.run stage.live
  (result, { stage with live })

/-- Carry out an action in the world of the session. -/
def actInWorld {Error Answer : Type} (stage : Stage Kind) (action : Action World Error Answer) :
    Except Error Answer × Stage Kind :=
  let (result, world) := action.run stage.live.world
  (result, { stage with live := { stage.live with world } })

/-- The stage with a guard for the last entry. -/
def gainGuard (stage : Stage Kind) : Stage Kind :=
  { stage with guards := ⟨stage.live.world.entryCount⟩ :: stage.guards }

/-- The stage without a guard, which is not released. -/
def forgetGuard (stage : Stage Kind) (index : Nat) : Stage Kind :=
  { stage with guards := stage.guards.eraseIdx index }

/-- The stage after a guard has been released. -/
def releaseGuard (stage : Stage Kind) (index : Nat) : Stage Kind :=
  { stage.forgetGuard index with live := stage.live.release }

/-- The stage after all guards have been released, the oldest first. -/
def releaseGuards (stage : Stage Kind) : Stage Kind :=
  { stage with live := stage.guards.foldr (fun _ live => live.release) stage.live, guards := [] }

/-- Enter the session, which gives a guard. -/
def enter (stage : Stage Kind) : Except SessionError Phase × Stage Kind :=
  match stage.act Live.enter with
  | (.error error, later) => (.error error, later)
  | (.ok (), later) => (.ok later.live.session.phase, later.gainGuard)

/-- The report at the beginning of a body. -/
def begin (stage : Stage Kind) (inside : Live Kind) : Report × Stage Kind :=
  { stage with live := inside }.report "begin" (.done (.ok ()))

/-- What can be seen of the session. -/
def view (stage : Stage Kind) : SessionView :=
  let session := stage.live.session
  ⟨session.config, session.backend.deviceId, session.transport, session.runtime,
    stage.live.world.files.contains session.runtime.path⟩

/-- Build a module and give it up again. -/
def createModule (stage : Stage Kind) (module : SourceModule) :
    Except SessionError MicroModule × Stage Kind :=
  match stage.actInWorld (stage.live.session.createModule module) with
  | (.ok loaded, later) =>
      (.ok loaded,
        { later with live := { later.live with world := loaded.release later.live.world } })
  | failed => failed

mutual

/-- Play one step. -/
def play (stage : Stage Kind) : Step → Report × Stage Kind
  | .enter =>
      let (result, later) := stage.enter
      later.report "enter" (.entered result)
  | .visit =>
      let (result, later) := stage.enter
      (if result.isOk then later.releaseGuard 0 else later).report "enter" (.entered result)
  | .dropGuard index =>
      if index < stage.guards.length then
        (stage.releaseGuard index).report "drop_guard" (.guarded true)
      else stage.report "drop_guard" (.guarded false)
  | .exitGuard index =>
      if index < stage.guards.length then
        let (result, later) := (stage.forgetGuard index).act Live.exitGuard
        later.report "guard_exit" (.done result)
      else stage.report "guard_exit" (.guarded false)
  | .forgetGuard index =>
      (stage.forgetGuard index).report "forget_guard" (.guarded (index < stage.guards.length))
  | .exit =>
      let (result, later) := stage.act Live.exit
      later.report "exit" (.done result)
  | .phase => stage.report "state" (.phase stage.live.session.phase)
  | .inspect => stage.report "info" (.seen stage.view)
  | .cross libType request =>
      let (result, later) := stage.actInWorld
        ((stage.live.session.crossCompiler libType).compileArtifact request)
      later.report "cross" (.built result)
  | .createModule module =>
      let (result, later) := stage.createModule module
      later.report "micro_mod" (.loaded result)
  | .within body ending =>
      let ((answer, outcome), live) := stage.live.within fun inside =>
        let (first, begun) := stage.begin inside
        let (reports, played) := begun.playAll body
        (((first :: reports, played), ending), played.live)
      let (reports, left) := answer.getD ([], stage)
      { left with live }.report "with" (.scope reports outcome)

/-- Play steps one after another. -/
def playAll (stage : Stage Kind) : List Step → List Report × Stage Kind
  | [] => ([], stage)
  | step :: later =>
      let (report, played) := stage.play step
      let (reports, last) := played.playAll later
      (report :: reports, last)

end

end Stage

/-- How a script ends: the session is closed or dropped with all guards forgotten, or the
guards are released and the session is dropped. -/
inductive Finale where
  | close
  | drop
  | leave
  deriving DecidableEq, Repr

/-- A script: steps, and how the session ends. -/
structure Script where
  steps : List Step
  finale : Finale

namespace Script

variable {Kind : Type} [Channel Kind]

/-- End a session on a stage. -/
def finish (stage : Stage Kind) : Finale → String × Except SessionError Unit × World
  | .close =>
      let (result, world) := stage.live.close
      ("close", result, world)
  | .drop => ("drop", .ok (), stage.live.drop)
  | .leave => ("end", .ok (), stage.releaseGuards.live.drop)

/-- Build a session in a world and play a script on it. -/
def play (setup : SessionSetup Kind) (config : DeviceConfig) (script : Script) (world : World) :
    List Report × World :=
  match (Session.build setup config).run world with
  | (.error error, later) =>
      ([.mk "build" (.done (.error error)) none (later.journal.drop world.journal.length)], later)
  | (.ok session, later) =>
      let (first, begun) := { Stage.start session later with told := world.journal.length }.report
        "build" (.done (.ok ()))
      let (reports, played) := begun.playAll script.steps
      let (name, result, last) := finish played script.finale
      (first :: reports ++ [.mk name (.done result) none (last.journal.drop played.told)], last)

end Script

end MicroDevice
