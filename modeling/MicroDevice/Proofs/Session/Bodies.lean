import MicroDevice.Proofs.Session.Ending
import MicroDevice.Simulation.Bench

/-! # Scopes with a body

A scope plays its body just if its own entry succeeds, and exits once the body has come to an end,
whatever the body did with the session and however it ended. So the session is not entered
afterwards, and all entries since the beginning of the scope have their exit
(`Stage.scope_settles`). What comes of the exit tells only if the body returned
(`Ending.afterExit`).
-/

namespace MicroDevice

variable {Kind : Type}

/-- How a scope ends whose body came to an end, given what came of the exit. -/
def Ending.afterExit (ending : Ending) (exited : Except SessionError Unit) : Ending :=
  match ending, exited with
  | .returned, .error error => .failed error
  | _, _ => ending

/-- Closing the channel at the end does not belong to the last scope. -/
theorem beforeNext_concat_close (calls : List Call) (succeeded : Bool) :
    beforeNext (calls ++ [⟨.close, succeeded⟩]) = beforeNext calls := by
  unfold beforeNext
  rw [List.takeWhile_append]
  split
  · rename_i all
    rw [List.takeWhile_cons_of_neg (by simp), List.append_nil]
    exact (List.takeWhile_prefix _).eq_of_length all |>.symm
  · rfl

/-- Each entry has its exit once a session is not entered any more. -/
theorem Scoping.entriesExited {first last : Phase} {calls : List Call}
    (scoping : Scoping first calls last) (outside : first ≠ .entered) (left : last ≠ .entered) :
    EntriesExited calls := by
  intro before after split
  have exits := (scoping.entriesExited_iff outside true).mpr left
  have one := exits before (after ++ [⟨.close, true⟩]) (by simp [split])
  rwa [beforeNext_concat_close] at one

variable [Channel Kind]

namespace Live

/-- Leaving a scope exits, and the outcome goes by that of the body first. -/
theorem leave_eq (ending : Ending) (live : Live Kind) :
    live.leave ending = (ending.afterExit (exit.run live).1, (exit.run live).2) := by
  cases ending with
  | returned =>
      unfold leave
      rw [run_exitGuard]
      rcases exit.run live with ⟨error | _, later⟩ <;> rfl
  | failed error =>
      unfold leave
      rw [run_exitGuard]
      rfl
  | unwound message => rfl

/-- The calls of a channel that there were stay on record. -/
theorem keptByCalls_record (earlier : List Call) :
    KeptByCalls fun live : Live Kind => earlier <+: live.world.calls where
  ask _ _ _ _ _ record asked := by
    rw [asked.calls_eq]
    exact record.trans (List.prefix_append _ _)
  setPhase _ _ record := record

/-- A session that was just entered has seen nothing but the entry, as if it had been opened
before that. -/
theorem follows_of_enter {before inside : Live Kind}
    (entered : enter.run before = (.ok (), inside)) :
    inside.world.calls = before.world.calls ++ [.entry] ∧ inside.Follows before.world := by
  cases entering_of_run entered with
  | entered allowed asked =>
      refine ⟨asked.calls_eq, [.entry], asked.calls_eq, ?_⟩
      exact .cons (.entered (by decide)) (.nil .entered)

end Live

namespace Stage

variable {stage : Stage Kind} {body : List Step} {ending : Ending}

/-- The body of a scope is not played when the entry fails. -/
theorem play_within_of_error {error : SessionError} {later : Live Kind}
    (refused : Live.enter.run stage.live = (.error error, later)) :
    stage.play (.within body ending) =
      { stage with live := later }.report "with" (.scope [] (.failed error)) := by
  rw [play, Live.within, refused]
  rfl

/-- After an entry the body of a scope is played and the scope ended, whatever the body comes to. -/
theorem play_within_of_ok {inside : Live Kind}
    (entered : Live.enter.run stage.live = (.ok (), inside)) :
    stage.play (.within body ending) =
      let (reports, ended) := (stage.begin inside).2.playAll body
      let (exited, left) := Live.exit.run ended.live
      { ended with live := left }.report "with"
        (.scope ((stage.begin inside).1 :: reports) (ending.afterExit exited)) := by
  rw [play, Live.within, entered]
  dsimp only
  rw [Live.leave_eq]
  rfl

/-- After the body of a scope and its exit the session is not entered, and each entry since the
beginning of the scope has just one exit. -/
theorem exited_after_body {inside : Live Kind}
    (entered : Live.enter.run stage.live = (.ok (), inside)) (body : List Step) :
    let left := ((stage.begin inside).2.playAll body).2.live.release
    left.session.phase ≠ .entered ∧
      ∃ calls, left.world.calls = stage.live.world.calls ++ .entry :: calls ∧
        EntriesExited (.entry :: calls) := by
  intro left
  obtain ⟨calls_eq, follows⟩ := Live.follows_of_enter entered
  have outside : left.session.phase ≠ .entered := Live.phase_release_ne _
  have followed : left.Follows stage.live.world :=
    ((invariant_follows stage.live.world).playAll (stage.begin inside).2 body
      (fun _ => trivial) follows).release
  have recorded : stage.live.world.calls ++ [.entry] <+: left.world.calls := by
    have kept : Live.KeptByCalls fun live : Live Kind =>
        stage.live.world.calls ++ [.entry] <+: live.world.calls := Live.keptByCalls_record _
    have keeps : Invariant True fun stage : Stage Kind => _ :=
      invariant_of_calls kept fun _ _ _ record builds => builds.calls_eq ▸ record
    exact kept.release (keeps.playAll (stage.begin inside).2 body (fun _ => trivial)
      (calls_eq ▸ List.prefix_rfl))
  obtain ⟨calls, told, scoping⟩ := followed
  rw [told, List.prefix_append_right_inj] at recorded
  obtain ⟨later, rfl⟩ := recorded
  exact ⟨outside, later, told, scoping.entriesExited (by decide) outside⟩

/-- A scope plays its body just if its own entry succeeds, and else ends with the error of the
entry. Once the body was played the scope exits, however the body ended: the session is not
entered afterwards, and each entry of the scope and its body has had just one exit. The outcome is
the error or the panic of the body, else the error of the exit, else that the body returned. A
session that is entered already refuses the scope and is left as it is. -/
theorem scope_settles (stage : Stage Kind) (body : List Step) (ending : Ending) :
    (∀ error later, Live.enter.run stage.live = (.error error, later) →
      stage.play (.within body ending) =
        { stage with live := later }.report "with" (.scope [] (.failed error))) ∧
    (∀ inside, Live.enter.run stage.live = (.ok (), inside) →
      ∃ reports ended exited left,
        (stage.begin inside).2.playAll body = (reports, ended) ∧
        Live.exit.run ended.live = (exited, left) ∧ Live.Exiting ended.live exited left ∧
        stage.play (.within body ending) =
          { ended with live := left }.report "with"
            (.scope ((stage.begin inside).1 :: reports) (ending.afterExit exited)) ∧
        left.session.phase ≠ .entered ∧
        ∃ calls, left.world.calls = stage.live.world.calls ++ .entry :: calls ∧
          EntriesExited (.entry :: calls)) ∧
    (stage.live.session.phase = .entered →
      stage.play (.within body ending) =
        stage.report "with" (.scope [] (.failed .reentrancy))) := by
  refine ⟨fun error later refused => play_within_of_error refused, ?_, fun entered => ?_⟩
  · intro inside entered
    obtain ⟨outside, calls, told, exits⟩ := exited_after_body entered body
    exact ⟨_, _, _, _, rfl, rfl, Live.exiting _, play_within_of_ok entered, outside, calls, told,
      exits⟩
  · exact play_within_of_error (Live.enter_of_entered entered)

/-- A body that exits, enters again, forgets its guard and panics, while the exit of the scope
fails. -/
theorem scope_settles_after_panic :
    ∃ session opened, Simulation.benchBuild (fun hook => if hook = .exit then [2] else []) =
        (.ok session, opened) ∧
      ∃ reports, ∃ later : Stage Simulation.ScriptedChannel, (start session opened).play
          (.within [.exit, .enter, .forgetGuard 0] (.unwound "boom")) =
            later.report "with" (.scope reports (.unwound "boom")) ∧
        later.live.session.phase ≠ .entered ∧
        ∃ calls, later.live.world.calls = opened.calls ++ .entry :: calls ∧
          EntriesExited (.entry :: calls) := by
  obtain ⟨session, opened, built⟩ :=
    Simulation.benchBuild_ok fun hook => if hook = .exit then [2] else []
  have enters : ((Simulation.benchStage (fun hook => if hook = .exit then [2] else []) []).any
      fun stage => (Live.enter.run stage.live).1.isOk) = true := by decide +kernel
  rw [Simulation.benchStage_of_built built] at enters
  rcases entered : Live.enter.run (start session opened).live with ⟨error | _, inside⟩
  · cases (congrArg (fun outcome => outcome.1.isOk) entered).symm.trans enters
  · obtain ⟨reports, ended, exited, left, -, -, -, played, outside, counted⟩ :=
      (scope_settles (start session opened) [.exit, .enter, .forgetGuard 0]
        (.unwound "boom")).2.1 inside entered
    exact ⟨session, opened, built, _, _, played, outside, counted⟩

end Stage

end MicroDevice
