import MicroDevice.Session.Script
import MicroDevice.Simulation.Backend
import MicroDevice.Simulation.Channel
import MicroDevice.Simulation.Image

/-! # A bench

The least that a session needs: a configuration for a scripted device, its backend and its
channel, and a world without tools.
-/

namespace MicroDevice.Simulation

/-- A configuration for the scripted device. -/
def benchConfig : DeviceConfig where
  deviceId := "mock"
  toolchainPrefix := ""
  memLayout := ⟨fun _ => some ⟨none, 4096⟩⟩
  wordSize := 64
  thumbMode := false
  commsMethod := "host"
  serverAddr := none
  serverPort := none

/-- A configuration with texts of all kinds, and with a region that begins and is as great as
a bound says. -/
def awkwardConfig (bound : UInt64) : DeviceConfig where
  deviceId := "\"\\\n\r\t\x01\x7f\x08\x0c\u00e9\u2028"
  toolchainPrefix := "\"\"\"'''"
  memLayout := MemoryLayout.empty.insert .stack (some bound) bound
  wordSize := 0xFFFFFFFF
  thumbMode := true
  commsMethod := ""
  serverAddr := some "'\n"
  serverPort := some 65535

/-- A setup with the scripted device, on whose channel the calls with the given numbers
fail. -/
def benchSetup (failing : Hook → List Nat) : SessionSetup ScriptedChannel where
  registry := ⟨[backend "mock" fun _ => .writes (some [])]⟩
  host := .current
  opener := openScripted none failing

/-- A setup with the scripted device, whose runtime holds headers alone, on the transports that
there are. -/
def hostSetup : SessionSetup DeviceChannel where
  registry := ⟨[backend "mock" fun _ => .writes (some (codeImage []))]⟩
  host := .current
  opener := openDevice

/-- A world with a fresh file tree and no tools. -/
def benchWorld : World where
  workshop := ⟨.fresh, fun _ _ files => (.notStarted .notFound, files), []⟩
  network := ⟨none, []⟩
  journal := []

/-- Build a session on the bench. -/
def benchBuild (failing : Hook → List Nat) :
    Except SessionError (Session ScriptedChannel) × World :=
  (Session.build (benchSetup failing) benchConfig).run benchWorld

set_option maxRecDepth 100000 in
/-- A session is built on the bench, whatever its channel does later. -/
theorem benchBuild_ok (failing : Hook → List Nat) :
    ∃ session opened, benchBuild failing = (.ok session, opened) := by
  have succeeds : (benchBuild failing).1.isOk = true := by rfl
  rcases built : benchBuild failing with ⟨error | session, opened⟩
  · rw [built] at succeeds
    cases succeeds
  · exact ⟨session, opened, rfl⟩

/-- The stage of a session, if it was built, after some steps. -/
def stageAfter (steps : List Step) :
    Except SessionError (Session ScriptedChannel) × World → Option (Stage ScriptedChannel)
  | (.ok session, opened) => some ((Stage.start session opened).playAll steps).2
  | (.error _, _) => none

/-- A session that was built on the bench, after some steps. -/
def benchStage (failing : Hook → List Nat) (steps : List Step) :
    Option (Stage ScriptedChannel) :=
  stageAfter steps (benchBuild failing)

/-- Once the bench session is known to build, playing steps on the bench is playing them on the
stage the build leaves. -/
theorem benchStage_of_built {failing : Hook → List Nat} {session : Session ScriptedChannel}
    {opened : World} (built : benchBuild failing = (.ok session, opened)) (steps : List Step) :
    benchStage failing steps = some ((Stage.start session opened).playAll steps).2 :=
  congrArg (stageAfter steps) built

end MicroDevice.Simulation
