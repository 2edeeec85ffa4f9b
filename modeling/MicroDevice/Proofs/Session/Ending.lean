import MicroDevice.Proofs.Session.Scopes

/-! # The end of a session

A session that is closed, dropped, or left with its guards ends in one way: it is dropped, with
an exit before that if a scope was open and somebody was there to end it (`Stage.left`). Nobody
is there if the session is dropped while entered (`Stage.LeavesEntered`), and just then an entry
is left without its exit (`EntriesExited`).
-/

namespace MicroDevice

variable {Kind : Type}

/-- The calls before the next entry or the closing of the channel. -/
def beforeNext (calls : List Call) : List Call :=
  calls.takeWhile fun call => call ≠ .entry ∧ call.hook ≠ .close

/-- Each entry is followed by just one exit before the next entry or the closing of the
channel. -/
def EntriesExited (calls : List Call) : Prop :=
  ∀ before after, calls = before ++ .entry :: after →
    (beforeNext after).countP Call.isExit = 1

namespace Scoping

/-- No exit comes before the next entry of a session that is not entered. -/
theorem no_exit {first last : Phase} {calls : List Call} (scoping : Scoping first calls last)
    (outside : first ≠ .entered) (succeeded : Bool) :
    (beforeNext (calls ++ [⟨.close, succeeded⟩])).countP Call.isExit = 0 := by
  induction scoping with
  | nil phase => simp [beforeNext]
  | cons moves scoping ih =>
      cases moves with
      | failed _ =>
          rw [List.cons_append, beforeNext, List.takeWhile_cons_of_pos (by decide),
            List.countP_cons]
          exact ih outside
      | entered _ =>
          rw [List.cons_append, beforeNext, List.takeWhile_cons_of_neg (by decide)]
          rfl
      | exited succeeded => exact absurd rfl outside

/-- A session that is entered and does not stay so has one exit before its next entry. -/
theorem one_exit {last : Phase} {calls : List Call} (scoping : Scoping .entered calls last)
    (left : last ≠ .entered) (succeeded : Bool) :
    (beforeNext (calls ++ [⟨.close, succeeded⟩])).countP Call.isExit = 1 := by
  cases scoping with
  | nil => exact absurd rfl left
  | cons moves onward =>
      cases moves with
      | failed apart => exact absurd rfl apart
      | entered apart => exact absurd rfl apart
      | exited ended =>
          have quiet := onward.no_exit (by decide) succeeded
          rw [beforeNext] at quiet
          rw [List.cons_append, beforeNext,
            List.takeWhile_cons_of_pos (by cases ended <;> decide), List.countP_cons, quiet]
          rfl

/-- An entry is not the closing, so it is among the calls before that. -/
theorem split_before_close {calls before after : List Call} {succeeded : Bool}
    (split : calls ++ [⟨.close, succeeded⟩] = before ++ .entry :: after) :
    ∃ later, after = later ++ [⟨.close, succeeded⟩] ∧ calls = before ++ .entry :: later := by
  rcases List.eq_nil_or_concat after with rfl | ⟨later, call, rfl⟩
  · have ends := congrArg List.getLast? split
    simp [Call.entry] at ends
  · rw [List.concat_eq_append] at split ⊢
    have whole : before ++ .entry :: (later ++ [call]) = (before ++ .entry :: later) ++ [call] :=
      (List.append_assoc before (.entry :: later) [call]).symm
    obtain ⟨same, closes⟩ := List.append_inj' (split.trans whole) rfl
    exact ⟨later, by rw [closes], same⟩

/-- Each entry has its exit just if the session is not left entered. -/
theorem entriesExited_iff {first last : Phase} {calls : List Call}
    (scoping : Scoping first calls last) (outside : first ≠ .entered) (succeeded : Bool) :
    EntriesExited (calls ++ [⟨.close, succeeded⟩]) ↔ last ≠ .entered := by
  constructor
  · rintro exits rfl
    obtain ⟨earlier, rfl⟩ := scoping.last_entry outside
    have none := exits earlier [⟨.close, succeeded⟩] (List.append_assoc _ _ _)
    simp [beforeNext] at none
  · intro left before after split
    obtain ⟨later, rfl, rfl⟩ := split_before_close split
    obtain ⟨_, -, onward⟩ := append_iff.mp scoping
    cases onward with
    | cons opens onward =>
        obtain ⟨-, rfl⟩ := opens.of_entry
        exact onward.one_exit left succeeded

end Scoping

variable [Channel Kind]

namespace Live

/-- Entering neither closes a session nor opens it again. -/
theorem isClosed_of_entering {before after : Live Kind} {result : Except SessionError Unit}
    (entering : Entering before result after) :
    after.session.isClosed = before.session.isClosed := by
  cases entering with
  | refused refuses => rfl
  | failed allowed asked => rw [asked.session_eq]
  | entered allowed asked =>
      rw [setPhase, asked.session_eq]

theorem isClosed_release (live : Live Kind) :
    live.release.session.isClosed = live.session.isClosed := by
  refine release_cases live ?_ ?_
  · exact fun _ => rfl
  · intro _ result after asked
    rw [asked.session_eq]
    rfl

/-- Closing a session is leaving its scope and dropping it. -/
theorem world_close {live : Live Kind} (opened : live.session.isClosed = false) :
    live.close.2 = live.release.drop := by
  have shut := closing (live.isClosed_release.trans opened)
  have closed : ((closeChannel.run live.release).2.setPhase .closed).session.isClosed = true := by
    change (closeChannel.run live.release).2.session.isClosed = true
    rw [shut.session_eq]
  unfold close
  change ((closeChannel.run live.release).2.setPhase .closed).drop = live.release.drop
  unfold drop
  rw [closeChannel_of_closed closed]
  rfl

/-- A session that is not closed asks its channel to close when it is dropped. -/
theorem dropping {live : Live Kind} (opened : live.session.isClosed = false) :
    ∃ result shut,
      Asked .close { live with session := { live.session with isClosed := true } } result shut ∧
        live.drop = shut.world.removeAll live.session.directory := by
  have shuts := closing opened
  refine ⟨_, _, shuts, ?_⟩
  rw [drop, shuts.session_eq]

end Live

namespace Stage

/-- The session on a stage as it is dropped in the end. -/
def left (stage : Stage Kind) : Finale → Live Kind
  | .close => stage.live.release
  | .drop => stage.live
  | .leave => stage.releaseGuards.live

/-- The session is dropped while entered: its guards were all forgotten, or are so in the
end. -/
def LeavesEntered (stage : Stage Kind) : Finale → Prop
  | .close => False
  | .drop => stage.live.session.phase = .entered
  | .leave => stage.live.session.phase = .entered ∧ stage.guards = []

/-- Releasing all guards is one release, if there is any guard. -/
theorem live_releaseGuards (stage : Stage Kind) :
    stage.releaseGuards.live = if stage.guards = [] then stage.live else stage.live.release := by
  unfold releaseGuards
  dsimp only
  induction stage.guards with
  | nil => rfl
  | cons guard guards ih =>
      rw [List.foldr_cons, ih, if_neg (List.cons_ne_nil _ _)]
      split
      · rfl
      · exact stage.live.release_release

/-- A session does not close its channel before its end. -/
theorem invariant_notClosed :
    Invariant True fun stage : Stage Kind => stage.live.session.isClosed = false where
  told _ _ opened := opened
  forget _ _ opened := opened
  refuse _ _ _ opened ran :=
    (Live.isClosed_of_entering (Live.entering_of_run ran)).trans opened
  enter _ _ opened ran := (Live.isClosed_of_entering (Live.entering_of_run ran)).trans opened
  gain _ _ opened ran := (Live.isClosed_of_entering (Live.entering_of_run ran)).trans opened
  release _ opened := (Live.isClosed_release _).trans opened
  build _ _ _ opened _ := opened

/-- However a script ends, the session is dropped as it was left. -/
theorem world_finish {stage : Stage Kind} (opened : stage.live.session.isClosed = false)
    (finale : Finale) : (Script.finish stage finale).2.2 = (stage.left finale).drop := by
  cases finale with
  | close => exact Live.world_close opened
  | drop => rfl
  | leave => rfl

/-- What a release keeps holds of the session that is dropped. -/
theorem left_of_release (Holds : Live Kind → Prop) {stage : Stage Kind} (holds : Holds stage.live)
    (kept : Holds stage.live.release) (finale : Finale) : Holds (stage.left finale) := by
  cases finale with
  | close => exact kept
  | drop => exact holds
  | leave =>
      rw [left, live_releaseGuards]
      split
      · exact holds
      · exact kept

/-- A session is not closed before it is dropped. -/
theorem isClosed_left {stage : Stage Kind} (opened : stage.live.session.isClosed = false)
    (finale : Finale) : (stage.left finale).session.isClosed = false :=
  left_of_release (fun live => live.session.isClosed = false) opened
    ((Live.isClosed_release _).trans opened) finale

/-- A session is dropped while entered exactly when the stage is left entered. -/
theorem phase_left_iff (stage : Stage Kind) (finale : Finale) :
    (stage.left finale).session.phase = .entered ↔ stage.LeavesEntered finale := by
  cases finale with
  | close => exact iff_of_false stage.live.phase_release_ne fun leaves => leaves
  | drop => exact Iff.rfl
  | leave =>
      rw [left, live_releaseGuards, LeavesEntered]
      split
      · rename_i none
        exact (and_iff_left none).symm
      · rename_i some
        exact iff_of_false stage.live.phase_release_ne fun entered => some entered.2

/-- While a session is entered, there is a guard. -/
def Guarded (stage : Stage Kind) : Prop :=
  stage.live.session.phase = .entered → stage.guards ≠ []

/-- After a release a stage needs no guard. -/
theorem guarded_of_release {stage : Stage Kind} {live : Live Kind}
    (released : stage.live = live.release) : stage.Guarded := by
  intro entered
  rw [released] at entered
  exact absurd entered live.phase_release_ne

/-- A session that cannot be entered is as it was. -/
theorem Guarded.refused {stage : Stage Kind} (guarded : stage.Guarded) {error : SessionError}
    {later : Live Kind} (ran : Live.enter.run stage.live = (.error error, later)) :
    Guarded { stage with live := later } := by
  intro entered
  have same := Live.phase_of_enter_error ran
  exact guarded (same.symm.trans entered)

/-- An entry gives a guard. -/
theorem Guarded.enter {stage : Stage Kind} (guarded : stage.Guarded) : stage.enter.2.Guarded := by
  unfold Stage.enter act
  rcases ran : Live.enter.run stage.live with ⟨error | _, later⟩
  · exact guarded.refused ran
  · intro _
    exact List.cons_ne_nil _ _

/-- A visit releases the guard that it was given. -/
theorem Guarded.visit {stage : Stage Kind} (guarded : stage.Guarded) :
    (stage.play .visit).2.Guarded := by
  have entered := guarded.enter
  rw [Stage.play]
  rcases ran : stage.enter with ⟨result, later⟩
  rw [ran] at entered
  by_cases succeeds : result.isOk = true
  · simp only [succeeds, if_true]
    exact guarded_of_release rfl
  · simp only [succeeds]
    exact entered

/-- A scope that was entered is left again, whatever its body forgets. -/
theorem Guarded.within {stage : Stage Kind} (guarded : stage.Guarded) (body : List Step)
    (ending : Ending) : (stage.play (.within body ending)).2.Guarded := by
  rw [Stage.play]
  unfold Live.within
  rcases ran : Live.enter.run stage.live with ⟨error | _, inside⟩
  · exact guarded.refused ran
  · exact guarded_of_release (Live.leave_eq_release ending _)

/-- Only forgetting a guard may leave a session entered without one. -/
theorem Guarded.play {stage : Stage Kind} (guarded : stage.Guarded) {step : Step}
    (remembers : ∀ index, step ≠ .forgetGuard index) : (stage.play step).2.Guarded := by
  cases step with
  | enter =>
      rw [Stage.play]
      exact guarded.enter
  | visit => exact guarded.visit
  | dropGuard index =>
      rw [Stage.play]
      split
      · exact guarded_of_release rfl
      · exact guarded
  | exitGuard index =>
      rw [Stage.play]
      split
      · unfold act
        rw [Live.run_exitGuard]
        exact guarded_of_release rfl
      · exact guarded
  | forgetGuard index => exact absurd rfl (remembers index)
  | exit =>
      rw [Stage.play]
      exact guarded_of_release rfl
  | phase =>
      rw [Stage.play]
      exact guarded
  | inspect =>
      rw [Stage.play]
      exact guarded
  | cross libType request =>
      rw [Stage.play]
      exact guarded
  | createModule module =>
      obtain ⟨world, -, later_eq⟩ := stage.builds_createModule module
      rw [Stage.play]
      rcases ran : stage.createModule module with ⟨result, later⟩
      rw [ran] at later_eq
      subst later_eq
      exact guarded
  | within body ending => exact guarded.within body ending

/-- Steps that forget no guard keep a stage guarded. -/
theorem Guarded.playAll {stage : Stage Kind} (guarded : stage.Guarded) {steps : List Step}
    (remembers : ∀ step ∈ steps, ∀ index, step ≠ .forgetGuard index) :
    (stage.playAll steps).2.Guarded := by
  induction steps generalizing stage with
  | nil =>
      rw [Stage.playAll]
      exact guarded
  | cons step later ih =>
      rw [Stage.playAll]
      refine ih (guarded.play (remembers step List.mem_cons_self)) fun other member => ?_
      exact remembers other (List.mem_cons_of_mem _ member)

end Stage

/-- However a session that is open is used and ended, the last call of its channel is the
closing, and each entry has its exit unless the session is dropped while entered. -/
theorem Session.Opened.ends {before opened : World} {session : Session Kind}
    (opens : session.Opened before opened) (steps : List Step) (finale : Finale) :
    ∃ calls succeeded,
      (Script.finish ((Stage.start session opened).playAll steps).2 finale).2.2.calls =
        opened.calls ++ (calls ++ [⟨.close, succeeded⟩]) ∧
      (EntriesExited (calls ++ [⟨.close, succeeded⟩]) ↔
        ¬ ((Stage.start session opened).playAll steps).2.LeavesEntered finale) := by
  generalize ended : ((Stage.start session opened).playAll steps).2 = stage
  have follows : stage.live.Follows opened := by
    rw [← ended]
    exact (Stage.invariant_follows opened).playAll _ steps (fun _ => trivial) opens.follows
  have notClosed : stage.live.session.isClosed = false := by
    rw [← ended]
    exact Stage.invariant_notClosed.playAll _ steps (fun _ => trivial) opens.notClosed
  obtain ⟨calls, told, scoping⟩ :=
    Stage.left_of_release (Live.Follows opened) follows follows.release finale
  obtain ⟨result, shut, asked, dropped⟩ := Live.dropping (Stage.isClosed_left notClosed finale)
  refine ⟨calls, result.isOk, ?_, ?_⟩
  · rw [Stage.world_finish notClosed, dropped, World.calls_removeAll, asked.calls_eq, told,
      List.append_assoc]
  · rw [scoping.entriesExited_iff (by decide), Ne, Stage.phase_left_iff]

/-- Each entry has its exit if no guard is forgotten and the guards go before the session. -/
theorem Session.Opened.entries_exited {before opened : World} {session : Session Kind}
    (opens : session.Opened before opened) {steps : List Step}
    (remembers : ∀ step ∈ steps, ∀ index, step ≠ .forgetGuard index) :
    ∃ calls succeeded,
      (Script.finish ((Stage.start session opened).playAll steps).2 .leave).2.2.calls =
        opened.calls ++ (calls ++ [⟨.close, succeeded⟩]) ∧
      EntriesExited (calls ++ [⟨.close, succeeded⟩]) := by
  have outside : session.phase ≠ .entered := by
    rw [opens.phase_eq]
    decide
  have guarded : (Stage.start session opened).Guarded := fun entered => absurd entered outside
  obtain ⟨calls, succeeded, told, exits⟩ := opens.ends steps .leave
  refine ⟨calls, succeeded, told, exits.mpr ?_⟩
  rintro ⟨entered, none⟩
  exact guarded.playAll remembers entered none

/-- However a session that was built is used and ended, the last call of its channel is the
closing, and each entry has just one exit before that and before the next entry, unless the
session is dropped while entered. -/
theorem Session.entries_exited_unless_left {setup : SessionSetup Kind} {config : DeviceConfig}
    {before opened : World} {session : Session Kind}
    (built : (Session.build setup config).run before = (.ok session, opened))
    (steps : List Step) (finale : Finale) :
    ∃ calls succeeded,
      (Script.finish ((Stage.start session opened).playAll steps).2 finale).2.2.calls =
        opened.calls ++ (calls ++ [⟨.close, succeeded⟩]) ∧
      (EntriesExited (calls ++ [⟨.close, succeeded⟩]) ↔
        ¬ ((Stage.start session opened).playAll steps).2.LeavesEntered finale) :=
  (Session.opened_of_build built).ends steps finale

/-- The guard of the only entry is forgotten, and the session is dropped. -/
theorem Session.entry_left_by_forgotten_guard :
    ∃ session opened, Simulation.benchBuild (fun _ => []) = (.ok session, opened) ∧
      ∃ calls succeeded,
        (Script.finish ((Stage.start session opened).playAll [.enter, .forgetGuard 0]).2
          .drop).2.2.calls = opened.calls ++ (calls ++ [⟨.close, succeeded⟩]) ∧
        ¬ EntriesExited (calls ++ [⟨.close, succeeded⟩]) := by
  obtain ⟨session, opened, built⟩ := Simulation.benchBuild_ok fun _ => []
  have seen : (Simulation.benchStage (fun _ => []) [.enter, .forgetGuard 0]).map
      (fun stage => stage.live.session.phase) = some .entered := by decide +kernel
  rw [Simulation.benchStage_of_built built] at seen
  obtain ⟨calls, succeeded, told, exits⟩ :=
    Session.entries_exited_unless_left built [.enter, .forgetGuard 0] .drop
  refine ⟨session, opened, built, calls, succeeded, told, ?_⟩
  rw [exits, not_not]
  exact Option.some.inj seen

end MicroDevice
