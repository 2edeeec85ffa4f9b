import MicroDevice.Proofs.Session.Opening

/-! # What a session asks of its channel

Every way a session has of using its channel, as an inversion of the function that does it:
`Live.asked`, `Live.entering`, `Live.exiting` and `Live.closing` say all that entering, exiting
and closing can do. Leaving a scope is one exit, however the scope ends
(`Live.leave_eq_release`), since a session that has exited does not exit again.
-/

namespace MicroDevice

variable {Kind : Type}

namespace World

@[simp] theorem calls_note_hook (hook : Hook) (present succeeded : Bool) (world : World) :
    (world.note (.hook hook present succeeded)).calls = world.calls ++ [⟨hook, succeeded⟩] := by
  simp only [calls, journal_note, List.filterMap_append]
  rfl

@[simp] theorem calls_removeAll (path : Path) (world : World) :
    (world.removeAll path).calls = world.calls := rfl

end World

namespace Live

variable [Channel Kind]

/-- What comes of asking the channel of a session for an operation. -/
structure Asked (hook : Hook) (before : Live Kind) (result : Except SessionError Unit)
    (after : Live Kind) : Prop where
  performed : (Channel.perform hook).run (before.session.channel, before.world.network) =
    (result, after.session.channel, after.world.network)
  session_eq : after.session = { before.session with channel := after.session.channel }
  world_eq : after.world = { before.world with network := after.world.network }.note
    (.hook hook (before.world.files.contains before.session.runtime.path) result.isOk)

/-- Asking for a hook comes to what `Asked` describes, whatever the channel answers. -/
theorem asked (hook : Hook) (live : Live Kind) :
    Asked hook live ((ask hook).run live).1 ((ask hook).run live).2 :=
  ⟨rfl, rfl, rfl⟩

theorem Asked.phase_eq {hook : Hook} {before after : Live Kind}
    {result : Except SessionError Unit} (asked : Asked hook before result after) :
    after.session.phase = before.session.phase := by
  rw [asked.session_eq]

/-- Asking is one call, with its success. -/
theorem Asked.calls_eq {hook : Hook} {before after : Live Kind}
    {result : Except SessionError Unit} (asked : Asked hook before result after) :
    after.world.calls = before.world.calls ++ [⟨hook, result.isOk⟩] := by
  rw [asked.world_eq, World.calls_note_hook]
  rfl

theorem Asked.files_eq {hook : Hook} {before after : Live Kind}
    {result : Except SessionError Unit} (asked : Asked hook before result after) :
    after.world.files = before.world.files := by
  rw [asked.world_eq]
  rfl

theorem Asked.workshop_eq {hook : Hook} {before after : Live Kind}
    {result : Except SessionError Unit} (asked : Asked hook before result after) :
    after.world.workshop = before.world.workshop := by
  rw [asked.world_eq]
  rfl

/-! ## Entering -/

/-- All that entering a session can do: the session refuses, or its channel is asked. -/
inductive Entering (before : Live Kind) : Except SessionError Unit → Live Kind → Prop
  | refused {error : SessionError} (refuses : before.session.phase.refusal? = some error) :
      Entering before (.error error) before
  | failed {error : SessionError} {after : Live Kind}
      (allowed : before.session.phase.refusal? = none)
      (asked : Asked .enter before (.error error) after) : Entering before (.error error) after
  | entered {after : Live Kind} (allowed : before.session.phase.refusal? = none)
      (asked : Asked .enter before (.ok ()) after) :
      Entering before (.ok ()) (after.setPhase .entered)

/-- Entering refuses by the phase, or asks the channel and moves to the entered phase if it
succeeds. -/
theorem run_enter (live : Live Kind) :
    enter.run live = match live.session.phase.refusal? with
      | some error => (.error error, live)
      | none => (ask .enter >>= fun _ => Action.change (setPhase .entered)).run live := rfl

/-- Entering comes to one of the cases of `Entering`. -/
theorem entering (live : Live Kind) : Entering live (enter.run live).1 (enter.run live).2 := by
  rw [run_enter]
  split
  · rename_i error refuses
    exact .refused refuses
  · rename_i allowed
    have asking := asked .enter live
    rcases answers : (ask .enter).run live with ⟨error | _, after⟩ <;> rw [answers] at asking
    · simp only [Action.run_bind, answers]
      exact .failed allowed asking
    · simp only [Action.run_bind, answers, Action.run_change]
      exact .entered allowed asking

theorem entering_of_run {live later : Live Kind} {result : Except SessionError Unit}
    (ran : enter.run live = (result, later)) : Entering live result later := by
  have enters := entering live
  rwa [ran] at enters

/-- A session that is entered already is not entered again, and its channel is not asked. -/
theorem enter_of_entered {live : Live Kind} (entered : live.session.phase = .entered) :
    enter.run live = (.error .reentrancy, live) := by
  rw [run_enter, entered]
  rfl

/-- A failed entry leaves the phase as it was. -/
theorem phase_of_enter_error {live later : Live Kind} {error : SessionError}
    (failed : enter.run live = (.error error, later)) :
    later.session.phase = live.session.phase := by
  cases entering_of_run failed with
  | refused refuses => rfl
  | failed allowed asked => exact asked.phase_eq

/-! ## Exiting -/

/-- All that exiting from a session can do: nothing, or asking the channel. -/
inductive Exiting (before : Live Kind) : Except SessionError Unit → Live Kind → Prop
  | idle (outside : before.session.phase ≠ .entered) : Exiting before (.ok ()) before
  | exited {result : Except SessionError Unit} {after : Live Kind}
      (inside : before.session.phase = .entered)
      (asked : Asked .exit (before.setPhase .exited) result after) : Exiting before result after

/-- Exiting asks the channel of an entered session, with the phase already changed, and does nothing
otherwise. -/
theorem run_exit (live : Live Kind) :
    exit.run live =
      if live.session.phase = .entered then (ask .exit).run (live.setPhase .exited)
      else (.ok (), live) := rfl

/-- Exiting comes to one of the cases of `Exiting`. -/
theorem exiting (live : Live Kind) : Exiting live (exit.run live).1 (exit.run live).2 := by
  rw [run_exit]
  split
  · rename_i inside
    exact .exited inside (asked .exit (live.setPhase .exited))
  · rename_i outside
    exact .idle outside

theorem exit_of_outside {live : Live Kind} (outside : live.session.phase ≠ .entered) :
    exit.run live = (.ok (), live) := by
  rw [run_exit, if_neg outside]

/-- What holds of a session after a release: nothing was done, or it has exited. -/
@[elab_as_elim]
theorem release_cases {motive : Live Kind → Prop} (live : Live Kind)
    (idle : live.session.phase ≠ .entered → motive live)
    (exited : live.session.phase = .entered → ∀ result after,
      Asked .exit (live.setPhase .exited) result after → motive after) : motive live.release := by
  have exits := exiting live
  rcases ran : exit.run live with ⟨result, later⟩
  rw [ran] at exits
  rw [release, ran]
  cases exits with
  | idle outside => exact idle outside
  | exited inside asked => exact exited inside result later asked

/-- A session that was exited from is not entered. -/
theorem phase_release_ne (live : Live Kind) : live.release.session.phase ≠ .entered := by
  refine release_cases live ?_ ?_
  · exact fun outside => outside
  · intro _ result after asked
    rw [asked.phase_eq]
    exact Phase.noConfusion

theorem release_release (live : Live Kind) : live.release.release = live.release := by
  have again := exit_of_outside live.phase_release_ne
  rw [release, again]

/-- Exiting through a guard is exiting, since the release that follows does nothing. -/
theorem run_exitGuard (live : Live Kind) : exitGuard.run live = exit.run live :=
  Prod.ext rfl live.release_release

/-- However a scope ends, leaving it is one exit. -/
theorem leave_eq_release (ending : Ending) (live : Live Kind) :
    (live.leave ending).2 = live.release := by
  cases ending with
  | returned =>
      unfold leave release
      rw [run_exitGuard]
      rcases exit.run live with ⟨error | _, later⟩ <;> rfl
  | failed error =>
      unfold leave release
      rw [run_exitGuard]
  | unwound message => rfl

/-! ## Closing -/

/-- The channel is asked to close once, with the session already marked as closed. -/
theorem run_closeChannel (live : Live Kind) :
    closeChannel.run live =
      if live.session.isClosed then (.ok (), live)
      else (ask .close).run { live with session := { live.session with isClosed := true } } := rfl

/-- A session that did not close its channel closes it now, and remembers that. -/
theorem closing {live : Live Kind} (opened : live.session.isClosed = false) :
    Asked .close { live with session := { live.session with isClosed := true } }
      (closeChannel.run live).1 (closeChannel.run live).2 := by
  rw [run_closeChannel, opened]
  exact asked .close _

theorem closeChannel_of_closed {live : Live Kind} (closed : live.session.isClosed = true) :
    closeChannel.run live = (.ok (), live) := by
  rw [run_closeChannel, closed]
  rfl

end Live

end MicroDevice
