import MicroDevice.Proofs.Session.Ending
import MicroDevice.Simulation.Bench

/-! # What a session leaves behind

The channel of a session is closed once, as the last thing that is asked of it, with the runtime
in place whenever anything is asked, and the directory of the session is gone after that. A run
leaves a session intact (`Live.Intact`) so that it can end so.
-/

namespace MicroDevice

variable {Kind : Type}

/-- What is asked of a channel or of its opener is asked with the runtime in place. -/
def Event.FindsRuntime : Event → Prop
  | .opening _ present _ => present = true
  | .hook _ present _ => present = true
  | _ => True

/-- Builds ask nothing of a channel. -/
theorem Event.findsRuntime_of_isBuild {event : Event} (building : event.isBuild = true) :
    event.FindsRuntime := by
  cases event <;> simp_all [isBuild, FindsRuntime]

/-- What a run leaves alone in a session that was built, and what was asked since then. -/
structure Live.Intact (session : Session Kind) (before opened : World) (live : Live Kind) :
    Prop where
  directory_eq : live.session.directory = session.directory
  runtime_eq : live.session.runtime = session.runtime
  backend_eq : live.session.backend = session.backend
  toolbox_eq : live.world.workshop.toolbox = opened.workshop.toolbox
  present : live.world.files.contains session.runtime.path = true
  journal_eq : ∃ events, live.world.journal = before.journal ++ events ∧
    ∀ event ∈ events, event.FindsRuntime ∧ ∀ call, event.call? = some call → call.hook ≠ .close

namespace Live.Intact

variable {session : Session Kind} {before opened : World}

theorem setPhase {live : Live Kind} (intact : live.Intact session before opened) (phase : Phase) :
    (live.setPhase phase).Intact session before opened :=
  ⟨intact.directory_eq, intact.runtime_eq, intact.backend_eq, intact.toolbox_eq, intact.present,
    intact.journal_eq⟩

/-- In an intact session the runtime is found. -/
theorem found {live : Live Kind} (intact : live.Intact session before opened) :
    live.world.files.contains live.session.runtime.path = true := by
  rw [intact.runtime_eq]
  exact intact.present

/-- A build leaves a session intact if the backend leaves the runtime in place. -/
theorem build {live : Live Kind} {world : World} (intact : live.Intact session before opened)
    {location : Location} (spells : session.runtime.path.Spells location)
    (keeps : session.backend.Keeps opened.workshop.toolbox session.runtime.path)
    (builds : World.Builds live.session.backend live.world world) :
    Live.Intact session before opened { live with world } := by
  obtain ⟨events, journal, fine⟩ := intact.journal_eq
  obtain ⟨later, extended, areBuilds⟩ := builds.journal_eq
  rw [← intact.backend_eq] at keeps
  obtain ⟨sameTools, stays⟩ := builds.leaves _ _ location spells keeps intact.toolbox_eq
  refine ⟨intact.directory_eq, intact.runtime_eq, intact.backend_eq, sameTools, ?_, ?_⟩
  · exact stays intact.present
  · refine ⟨events ++ later, ?_, ?_⟩
    · change world.journal = _
      rw [extended, journal, List.append_assoc]
    · intro event member
      rcases List.mem_append.mp member with earlier | built
      · exact fine event earlier
      · have isBuild := areBuilds event built
        have none := Event.call_of_isBuild isBuild
        refine ⟨?_, fun call isCall => ?_⟩
        · exact Event.findsRuntime_of_isBuild isBuild
        · rw [none] at isCall
          cases isCall

end Live.Intact

namespace Session

variable {session : Session Kind} {before opened : World}

/-- The path of an opened session's runtime spells a location. -/
theorem Opened.spells (opens : session.Opened before opened) :
    ∃ location, session.runtime.path.Spells location := by
  obtain ⟨number, directory_eq⟩ := opens.directory
  rw [opens.runtime_eq, directory_eq]
  exact ⟨_, (FileTree.spells_temporary (by decide) number).join
    (FileTree.temporaryLocation_ne _ _) (by decide) (by decide)⟩

/-- A session is intact when it was built. -/
theorem Opened.intact (opens : session.Opened before opened) :
    Live.Intact session before opened ⟨session, opened⟩ := by
  obtain ⟨job, params, journal⟩ := opens.journal_eq
  refine ⟨rfl, rfl, rfl, rfl, opens.present, ⟨_, journal, ?_⟩⟩
  intro event member
  rcases List.mem_cons.mp member with rfl | later
  · exact ⟨trivial, fun _ isCall => by cases isCall⟩
  · rw [List.mem_singleton.mp later]
    exact ⟨rfl, fun _ isCall => by cases isCall⟩

/-- Removing the directory of an opened session leaves nothing at its path. -/
theorem Opened.contains_removeAll (opens : session.Opened before opened) (files : FileTree) :
    (files.removeAll session.directory).contains session.directory = false := by
  obtain ⟨number, directory_eq⟩ := opens.directory
  rw [directory_eq]
  exact files.contains_removeAll (FileTree.spells_temporary (by decide) number)
    (FileTree.temporaryLocation_ne _ _)

end Session

variable [Channel Kind]

namespace Live.Intact

variable {session : Session Kind} {before opened : World}

/-- Asking the channel for anything but its closing leaves a session intact. -/
theorem ask {hook : Hook} {live after : Live Kind} {result : Except SessionError Unit}
    (intact : live.Intact session before opened) (asked : Asked hook live result after)
    (other : hook ≠ .close) : after.Intact session before opened := by
  obtain ⟨events, journal, fine⟩ := intact.journal_eq
  refine ⟨?_, ?_, ?_, ?_, ?_, ?_⟩
  · rw [asked.session_eq]
    exact intact.directory_eq
  · rw [asked.session_eq]
    exact intact.runtime_eq
  · rw [asked.session_eq]
    exact intact.backend_eq
  · rw [asked.world_eq]
    exact intact.toolbox_eq
  · rw [asked.files_eq]
    exact intact.present
  · refine ⟨events ++ [.hook hook true result.isOk], ?_, ?_⟩
    · rw [asked.world_eq, World.journal_note, intact.found]
      change live.world.journal ++ _ = _
      rw [journal, List.append_assoc]
    · intro event member
      rcases List.mem_append.mp member with earlier | last
      · exact fine event earlier
      · rw [List.mem_singleton.mp last]
        refine ⟨rfl, fun call isCall => ?_⟩
        cases isCall
        exact other

theorem keptByCalls : KeptByCalls (Live.Intact session before opened) where
  ask _ _ _ _ other intact asked := intact.ask asked other
  setPhase _ phase intact := intact.setPhase phase

/-- Dropping an intact session closes its channel, as the last call and with the runtime in
place, and then removes its directory. -/
theorem drop {live : Live Kind} (intact : live.Intact session before opened)
    (opens : session.Opened before opened) (notClosed : live.session.isClosed = false) :
    (∃ events, live.drop.journal = before.journal ++ events ∧
      (∀ event ∈ events, event.FindsRuntime) ∧
      ∃ calls succeeded, events.filterMap Event.call? = calls ++ [⟨.close, succeeded⟩] ∧
        ∀ call ∈ calls, call.hook ≠ .close) ∧
    live.drop.files.contains session.directory = false := by
  obtain ⟨result, shut, asked, dropped⟩ := Live.dropping notClosed
  obtain ⟨events, journal, fine⟩ := intact.journal_eq
  rw [dropped, intact.directory_eq]
  refine ⟨⟨events ++ [.hook .close true result.isOk], ?_, ?_, ?_⟩, ?_⟩
  · rw [World.journal_removeAll, asked.world_eq, World.journal_note, intact.found]
    change live.world.journal ++ _ = _
    rw [journal, List.append_assoc]
  · intro event member
    rcases List.mem_append.mp member with earlier | closes
    · exact (fine event earlier).1
    · rw [List.mem_singleton.mp closes]
      rfl
  · refine ⟨events.filterMap Event.call?, result.isOk, List.filterMap_append, ?_⟩
    intro call member
    obtain ⟨event, earlier, isCall⟩ := List.mem_filterMap.mp member
    exact (fine event earlier).2 call isCall
  · rw [World.files_removeAll]
    exact opens.contains_removeAll _

end Live.Intact

/-- All operations of a session leave it intact. -/
theorem Stage.invariant_intact {session : Session Kind} {location : Location}
    (spells : session.runtime.path.Spells location) (before opened : World) :
    Stage.Invariant (session.backend.Keeps opened.workshop.toolbox session.runtime.path)
      fun stage => stage.live.Intact session before opened :=
  Stage.invariant_of_calls Live.Intact.keptByCalls fun keeps _ _ intact builds =>
    intact.build spells keeps builds

namespace Session

/-- What comes of the exit with which a session is closed: the channel is only asked if the
session is entered. -/
def exitAnswer (session : Session Kind) (network : Network) :
    Except SessionError Unit × Kind × Network :=
  if session.phase = .entered then (Channel.perform .exit).run (session.channel, network)
  else (.ok (), session.channel, network)

end Session

namespace Live

/-- What an exit answers can be told from the session and its network beforehand. -/
theorem exit_eq_exitAnswer (live : Live Kind) :
    live.session.exitAnswer live.world.network =
      ((exit.run live).1, live.release.session.channel, live.release.world.network) := by
  unfold Session.exitAnswer release
  rw [run_exit]
  split
  · exact (asked .exit (live.setPhase .exited)).performed
  · rfl

/-- Closing a session answers with the failure of the exit, or else as the channel answers to
its closing. -/
theorem close_answer {live : Live Kind} (opened : live.session.isClosed = false) :
    (∀ error, (live.session.exitAnswer live.world.network).1 = .error error →
      live.close.1 = .error error) ∧
    ((live.session.exitAnswer live.world.network).1 = .ok () →
      live.close.1 =
        ((Channel.perform .close).run (live.session.exitAnswer live.world.network).2).1) := by
  have shuts := closing (live.isClosed_release.trans opened)
  rw [exit_eq_exitAnswer]
  dsimp only
  rw [shuts.performed]
  unfold close release
  constructor
  · intro error failed
    dsimp only
    rw [failed]
  · intro exited
    dsimp only
    rw [exited]

end Live

/-- However a session that was built is used and ended, its channel is closed once, as the last
thing that is asked of it. The runtime is in place whenever the opener or the channel is asked,
and in the end the directory of the session is gone. Closing answers with the failure of the
exit, or else as the channel answers to its closing. All this needs no more of the backend than
that builds of the run, if there are any, leave the runtime in place. -/
theorem Session.closes_once {setup : SessionSetup Kind} {config : DeviceConfig}
    {before opened : World} {session : Session Kind}
    (built : (Session.build setup config).run before = (.ok session, opened)) (steps : List Step)
    (safe : Step.anyBuilds steps = true →
      session.backend.Keeps opened.workshop.toolbox session.runtime.path)
    (finale : Finale) :
    let stage := ((Stage.start session opened).playAll steps).2
    let last := (Script.finish stage finale).2.2
    (∃ events, last.journal = before.journal ++ events ∧
      (∀ event ∈ events, event.FindsRuntime) ∧
      ∃ calls succeeded, events.filterMap Event.call? = calls ++ [⟨.close, succeeded⟩] ∧
        ∀ call ∈ calls, call.hook ≠ .close) ∧
    last.files.contains session.directory = false ∧
    (∀ error, (stage.live.session.exitAnswer stage.live.world.network).1 = .error error →
      stage.live.close.1 = .error error) ∧
    ((stage.live.session.exitAnswer stage.live.world.network).1 = .ok () →
      stage.live.close.1 = ((Channel.perform .close).run
        (stage.live.session.exitAnswer stage.live.world.network).2).1) := by
  have opens := Session.opened_of_build built
  obtain ⟨location, spells⟩ := opens.spells
  intro stage last
  have intact : stage.live.Intact session before opened :=
    (Stage.invariant_intact spells before opened).playAll _ steps safe opens.intact
  have notClosed : stage.live.session.isClosed = false :=
    Stage.invariant_notClosed.playAll _ steps (fun _ => trivial) opens.notClosed
  have whole : (stage.left finale).Intact session before opened :=
    Stage.left_of_release (Live.Intact session before opened) intact
      (Live.Intact.keptByCalls.release intact) finale
  have last_eq : last = (stage.left finale).drop := Stage.world_finish notClosed finale
  obtain ⟨once, gone⟩ := whole.drop opens (Stage.isClosed_left notClosed finale)
  rw [last_eq]
  exact ⟨once, gone, Live.close_answer notClosed⟩

namespace Simulation

/-- The backend of the bench leaves every path that spells a location in place. -/
theorem keeps_backend (deviceId : String) (reaction : LibType → Reaction) {toolbox : Toolbox}
    {path : Path} {location : Location} (spells : path.Spells location) :
    (backend deviceId reaction).Keeps toolbox path := by
  intro job
  have grows : ((reaction job.libType).compile deviceId job).Moves Workshop.Grows := by
    unfold Reaction.compile
    split
    · exact Action.moves_ofResult _
    · exact Action.moves_ofResult _
    · exact Action.moves_pure ()
    · exact (Workshop.moves_look _).bind fun _ => Workshop.moves_write _ _
  exact grows.weaken fun _ _ grown => grown.leaves toolbox spells

set_option maxRecDepth 100000 in
/-- A session built on the bench has the backend of the bench. -/
theorem backend_of_built {failing : Hook → List Nat} {session : Session ScriptedChannel}
    {opened : World} (built : benchBuild failing = (.ok session, opened)) :
    session.backend = backend "mock" fun _ => .writes (some []) := by
  have backends : (benchBuild failing).1.toOption.map Session.backend =
      some (backend "mock" fun _ => .writes (some [])) := by rfl
  rw [built] at backends
  exact Option.some.inj backends

end Simulation

/-- A session whose channel fails to exit and to close builds a module and is closed while
entered. -/
theorem Session.closes_once_after_failures :
    ∃ session opened, Simulation.benchBuild (fun
        | .enter => []
        | _ => [1]) = (.ok session, opened) ∧
      let stage := ((Stage.start session opened).playAll
        [.enter, .createModule ⟨"relu", "void relu(void);"⟩]).2
      let last := (Script.finish stage .close).2.2
      (∃ events, last.journal = Simulation.benchWorld.journal ++ events ∧
        (∀ event ∈ events, event.FindsRuntime) ∧
        ∃ calls succeeded, events.filterMap Event.call? = calls ++ [⟨.close, succeeded⟩] ∧
          ∀ call ∈ calls, call.hook ≠ .close) ∧
      last.files.contains session.directory = false := by
  obtain ⟨session, opened, built⟩ := Simulation.benchBuild_ok fun
    | .enter => []
    | _ => [1]
  obtain ⟨location, spells⟩ := (Session.opened_of_build built).spells
  have safe : session.backend.Keeps opened.workshop.toolbox session.runtime.path := by
    rw [Simulation.backend_of_built built]
    exact Simulation.keeps_backend _ _ spells
  obtain ⟨asked, gone, -⟩ := Session.closes_once built
    [.enter, .createModule ⟨"relu", "void relu(void);"⟩] (fun _ => safe) .close
  exact ⟨session, opened, built, asked, gone⟩

end MicroDevice
