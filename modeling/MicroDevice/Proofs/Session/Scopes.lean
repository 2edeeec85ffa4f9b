import Mathlib.Data.List.Induction
import MicroDevice.Proofs.Session.Run
import MicroDevice.Simulation.Bench

/-! # The scopes of a session

However the operations of a session are mixed, its channel sees entries and exits in turn: an
exit ends the last entry (`ExitsFollowEntries`), there is an exit between an entry and the next
(`EntriesSeparated`), and the phase of the session can be told from the calls that its channel
saw (`Phase.after`). The invariant is `Scoping`, a history that grows by one call at a time.
-/

namespace MicroDevice

variable {Kind : Type}

/-- Whether a call is one to exit. -/
def Call.isExit (call : Call) : Bool :=
  call.hook = .exit

/-- Each exit comes after an entry, with no other exit in between. -/
def ExitsFollowEntries (calls : List Call) : Prop :=
  ∀ before after succeeded, calls = before ++ ⟨.exit, succeeded⟩ :: after →
    ∃ earlier between, before = earlier ++ .entry :: between ∧
      ∀ call ∈ between, call.isExit = false

/-- Between two entries there is one exit more than there are entries: just one exit if the
entries are neighbours. -/
def EntriesSeparated (calls : List Call) : Prop :=
  ∀ before between after, calls = before ++ .entry :: (between ++ .entry :: after) →
    between.countP Call.isExit = between.count .entry + 1

/-- The calls since the last entry, the newest first. -/
def sinceEntry (calls : List Call) : List Call :=
  calls.reverse.takeWhile (· ≠ .entry)

/-- The phase that an open session is in when its channel has seen some calls: it is still open
if none was an entry, entered if there was no exit since the last entry, and else exited. -/
def Phase.after (calls : List Call) : Phase :=
  if .entry ∈ calls then
    if (sinceEntry calls).any Call.isExit then .exited else .entered
  else .channelOpen

/-- How a call moves a session from one phase to another. A session that is entered only
exits, and no other session does. -/
inductive Phase.Moves : Phase → Call → Phase → Prop
  | failed {phase : Phase} (outside : phase ≠ .entered) : Moves phase ⟨.enter, false⟩ phase
  | entered {phase : Phase} (outside : phase ≠ .entered) : Moves phase .entry .entered
  | exited (succeeded : Bool) : Moves .entered ⟨.exit, succeeded⟩ .exited

/-- The calls that lead a session from one phase to another. -/
inductive Scoping : Phase → List Call → Phase → Prop
  | nil (phase : Phase) : Scoping phase [] phase
  | cons {first middle last : Phase} {call : Call} {calls : List Call}
      (moves : first.Moves call middle) (scoping : Scoping middle calls last) :
      Scoping first (call :: calls) last

namespace Phase

@[simp] theorem after_entry (calls : List Call) : after (calls ++ [.entry]) = .entered := by
  simp [after, sinceEntry]

@[simp] theorem after_failed (calls : List Call) :
    after (calls ++ [⟨.enter, false⟩]) = after calls := by
  simp [after, sinceEntry, Call.entry, Call.isExit]

/-- After an exit, if there was an entry, a session is exited. -/
theorem after_exit {calls : List Call} (isEntered : .entry ∈ calls) (succeeded : Bool) :
    after (calls ++ [⟨.exit, succeeded⟩]) = .exited := by
  have some : .entry ∈ calls ++ [⟨.exit, succeeded⟩] := List.mem_append_left _ isEntered
  have ended : (sinceEntry (calls ++ [⟨.exit, succeeded⟩])).any Call.isExit = true := by
    simp [sinceEntry, Call.isExit, Call.entry]
  rw [after, if_pos some, if_pos ended]

/-- An entry leads from outside of a scope into one. -/
theorem Moves.of_entry {first last : Phase} (moves : first.Moves .entry last) :
    first ≠ .entered ∧ last = .entered := by
  generalize isEntry : Call.entry = call at moves
  cases moves with
  | failed outside => cases isEntry
  | entered outside => exact ⟨outside, rfl⟩
  | exited succeeded => cases isEntry

/-- A session that may enter is not entered yet. -/
theorem ne_entered_of_refusal {phase : Phase} (allowed : phase.refusal? = none) :
    phase ≠ .entered := by
  rintro rfl
  cases allowed

end Phase

namespace Scoping

/-- Calls in a row lead through the phase between them. -/
theorem append_iff {first last : Phase} {earlier later : List Call} :
    Scoping first (earlier ++ later) last ↔
      ∃ middle, Scoping first earlier middle ∧ Scoping middle later last := by
  induction earlier generalizing first with
  | nil =>
      constructor
      · intro scoping
        exact ⟨first, .nil first, scoping⟩
      · rintro ⟨middle, before, after⟩
        cases before
        exact after
  | cons call calls ih =>
      constructor
      · intro scoping
        cases scoping with
        | cons moves scoping =>
            obtain ⟨middle, before, after⟩ := ih.mp scoping
            exact ⟨middle, .cons moves before, after⟩
      · rintro ⟨middle, before, after⟩
        cases before with
        | cons moves before => exact .cons moves (ih.mpr ⟨middle, before, after⟩)

/-- The last call moves from the phase that the earlier ones lead to. -/
theorem concat_iff {first last : Phase} {earlier : List Call} {call : Call} :
    Scoping first (earlier ++ [call]) last ↔
      ∃ middle, Scoping first earlier middle ∧ middle.Moves call last := by
  rw [append_iff]
  constructor
  · rintro ⟨middle, before, after⟩
    cases after with
    | cons moves done =>
        cases done
        exact ⟨middle, before, moves⟩
  · rintro ⟨middle, before, moves⟩
    exact ⟨middle, before, .cons moves (.nil last)⟩

/-- A session that was not entered before but is now was entered by the last call. -/
theorem last_entry {first : Phase} {calls : List Call} (scoping : Scoping first calls .entered)
    (outside : first ≠ .entered) : ∃ earlier, calls = earlier ++ [.entry] := by
  rcases List.eq_nil_or_concat calls with rfl | ⟨earlier, call, rfl⟩
  · cases scoping
    exact absurd rfl outside
  · rw [List.concat_eq_append] at scoping ⊢
    obtain ⟨middle, -, moves⟩ := concat_iff.mp scoping
    cases moves with
    | failed outside => exact absurd rfl outside
    | entered outside => exact ⟨earlier, rfl⟩

/-- Exits and entries balance, but for a scope that is open in the beginning or in the end. -/
theorem balance {first last : Phase} {calls : List Call} (scoping : Scoping first calls last) :
    calls.countP Call.isExit + (if last = .entered then 1 else 0) =
      calls.count .entry + if first = .entered then 1 else 0 := by
  induction scoping with
  | nil phase => rfl
  | cons moves scoping ih =>
      rw [List.countP_cons, List.count_cons]
      cases moves with
      | failed outside =>
          simp only [if_neg outside] at ih ⊢
          simpa [Call.isExit, Call.entry] using ih
      | entered outside =>
          simp only [if_neg outside]
          simpa [Call.isExit, Call.entry] using ih
      | exited succeeded =>
          simp [Call.isExit, Call.entry] at ih ⊢
          omega

/-- In calls that begin outside of a scope, each exit follows an entry. -/
theorem exits_follow {first last : Phase} {calls : List Call} (scoping : Scoping first calls last)
    (outside : first ≠ .entered) : ExitsFollowEntries calls := by
  rintro before after succeeded rfl
  obtain ⟨middle, upTo, onward⟩ := append_iff.mp scoping
  cases onward with
  | cons moves _ =>
      cases moves
      obtain ⟨earlier, rfl⟩ := upTo.last_entry outside
      exact ⟨earlier, [], rfl, by simp⟩

/-- In calls that lead anywhere, entries are separated by exits. -/
theorem separated {first last : Phase} {calls : List Call} (scoping : Scoping first calls last) :
    EntriesSeparated calls := by
  rintro before between after rfl
  obtain ⟨_, -, onward⟩ := append_iff.mp scoping
  cases onward with
  | cons opens onward =>
      obtain ⟨_, within, further⟩ := append_iff.mp onward
      cases further with
      | cons reopens _ =>
          obtain ⟨-, rfl⟩ := opens.of_entry
          obtain ⟨outside, -⟩ := reopens.of_entry
          have balanced := within.balance
          rwa [if_neg outside, if_pos rfl] at balanced

/-- The calls since a session was opened tell its phase. -/
theorem phase_eq {phase : Phase} {calls : List Call} (scoping : Scoping .channelOpen calls phase) :
    phase = Phase.after calls := by
  induction calls using List.reverseRecOn generalizing phase with
  | nil =>
      cases scoping
      rfl
  | append_singleton earlier call ih =>
      obtain ⟨middle, before, moves⟩ := concat_iff.mp scoping
      cases moves with
      | failed outside => rw [Phase.after_failed, ih before]
      | entered outside => rw [Phase.after_entry]
      | exited succeeded =>
          obtain ⟨first, rfl⟩ := before.last_entry (by decide)
          rw [Phase.after_exit (by simp)]

end Scoping

/-- A session is in the phase that the calls since some world have led it to. -/
def Live.Follows (opened : World) (live : Live Kind) : Prop :=
  ∃ calls, live.world.calls = opened.calls ++ calls ∧
    Scoping .channelOpen calls live.session.phase

/-- One more call that moves the phase accordingly lets a session follow its calls. -/
theorem Live.Follows.call {opened : World} {before after : Live Kind} {call : Call}
    (follows : before.Follows opened) (calls_eq : after.world.calls = before.world.calls ++ [call])
    (moves : before.session.phase.Moves call after.session.phase) : after.Follows opened := by
  obtain ⟨calls, told, scoping⟩ := follows
  refine ⟨calls ++ [call], ?_, Scoping.concat_iff.mpr ⟨_, scoping, moves⟩⟩
  rw [calls_eq, told, List.append_assoc]

/-- Builds make no call, so that a session still follows its calls. -/
theorem Live.Follows.build {opened : World} {backend : DeviceBackend}
    {live : Live Kind} {world : World}
    (follows : live.Follows opened) (builds : World.Builds backend live.world world) :
    Live.Follows opened { live with world } := by
  obtain ⟨calls, told, scoping⟩ := follows
  exact ⟨calls, builds.calls_eq.trans told, scoping⟩

/-- A session that was just built has seen no calls. -/
theorem Session.Opened.follows {before opened : World} {session : Session Kind}
    (opens : session.Opened before opened) : Live.Follows opened ⟨session, opened⟩ := by
  refine ⟨[], (List.append_nil _).symm, ?_⟩
  rw [opens.phase_eq]
  exact .nil _

variable [Channel Kind]

namespace Live.Follows

variable {opened : World}

/-- Entering lets a session follow its calls. -/
theorem enter {before after : Live Kind} {result : Except SessionError Unit}
    (follows : before.Follows opened) (entering : Entering before result after) :
    after.Follows opened := by
  cases entering with
  | refused refuses => exact follows
  | failed allowed asked =>
      refine follows.call asked.calls_eq ?_
      rw [asked.phase_eq]
      exact .failed (Phase.ne_entered_of_refusal allowed)
  | entered allowed asked =>
      exact follows.call asked.calls_eq (.entered (Phase.ne_entered_of_refusal allowed))

theorem release {live : Live Kind} (follows : live.Follows opened) :
    live.release.Follows opened := by
  refine release_cases live ?_ ?_
  · exact fun _ => follows
  · intro inside result after asked
    refine follows.call asked.calls_eq ?_
    rw [asked.phase_eq, inside]
    exact .exited _

end Live.Follows

/-- All operations of a session keep its phase in step with its calls. -/
theorem Stage.invariant_follows (opened : World) :
    Stage.Invariant True fun stage : Stage Kind => stage.live.Follows opened where
  told _ _ follows := follows
  forget _ _ follows := follows
  refuse _ _ _ follows ran := follows.enter (Live.entering_of_run ran)
  enter _ _ follows ran := follows.enter (Live.entering_of_run ran)
  gain _ _ follows ran := follows.enter (Live.entering_of_run ran)
  release _ follows := follows.release
  build _ _ _ follows builds := follows.build builds

/-- Whatever is done with a session that was built, at each moment the exits that its channel
saw follow the entries, the entries are apart from each other, and the phase of the session can
be told from the calls. An entry that fails leaves the phase as it is, and a session that is
entered refuses to be entered without asking its channel. -/
theorem Session.scopes_of_passes {setup : SessionSetup Kind} {config : DeviceConfig}
    {before opened : World} {session : Session Kind} {steps : List Step} {passed : Stage Kind}
    (built : (Session.build setup config).run before = (.ok session, opened))
    (passes : (Stage.start session opened).Passes steps passed) :
    ∃ calls, passed.live.world.calls = opened.calls ++ calls ∧
      ExitsFollowEntries calls ∧ EntriesSeparated calls ∧
      passed.live.session.phase = Phase.after calls ∧
      (∀ error later, Live.enter.run passed.live = (.error error, later) →
        later.session.phase = passed.live.session.phase) ∧
      (passed.live.session.phase = .entered →
        Live.enter.run passed.live = (.error .reentrancy, passed.live)) := by
  have follows : passed.live.Follows opened :=
    (Stage.invariant_follows opened).passes passes (fun _ => trivial)
      (Session.opened_of_build built).follows
  obtain ⟨calls, told, scoping⟩ := follows
  have follow := scoping.exits_follow (by decide)
  refine ⟨calls, told, follow, scoping.separated, scoping.phase_eq, ?_, ?_⟩
  · intro error later failed
    exact Live.phase_of_enter_error failed
  · exact Live.enter_of_entered

/-- A session whose channel fails its first entry and its first exit, with entries and exits in
the bodies of scopes too. -/
theorem Session.scopes_of_failing_exit :
    ∃ session opened, Simulation.benchBuild (fun _ => [1]) = (.ok session, opened) ∧
      ∃ calls, ((Stage.start session opened).playAll
          [.enter, .enter, .exit, .enter, .exit, .within [.enter] .returned,
            .within [.exit, .enter] (.unwound "boom")]).2.live.world.calls =
          opened.calls ++ calls ∧
        ExitsFollowEntries calls ∧ EntriesSeparated calls := by
  obtain ⟨session, opened, built⟩ := Simulation.benchBuild_ok fun _ => [1]
  obtain ⟨calls, told, follow, separated, -⟩ :=
    Session.scopes_of_passes built (Stage.passes_playAll (Stage.start session opened) _)
  exact ⟨session, opened, built, calls, told, follow, separated⟩

end MicroDevice
