import MicroDevice.Proofs.Session.Sparing

/-! # Visits

A visit enters a session, does nothing in there, exits and gives the session up. Whatever fails,
the channel is closed as the last thing that is asked of it, and it was exited from just once if it
was entered.
-/

namespace MicroDevice

variable {Kind : Type}

/-! ## Entering and exiting -/

namespace Live

variable [Channel Kind]

/-- All that entering and exiting an open session can do: the channel fails to enter, or it is
entered and exited. -/
inductive Visiting (live : Live Kind) : Option Phase × Ending → Live Kind → Prop
  | failed {error : SessionError} {after : Live Kind}
      (asked : Asked .enter live (.error error) after) :
      Visiting live (none, .failed error) after
  | stuck {error : SessionError} {inside after : Live Kind}
      (entered : Asked .enter live (.ok ()) inside)
      (exited : Asked .exit (inside.setPhase .exited) (.error error) after) :
      Visiting live (some .entered, .failed error) after
  | returned {inside after : Live Kind} (entered : Asked .enter live (.ok ()) inside)
      (exited : Asked .exit (inside.setPhase .exited) (.ok ()) after) :
      Visiting live (some .entered, .returned) after

/-- Looking at the phase of an open session inside the runtime is a visit. -/
theorem visiting {live : Live Kind} (isOpen : live.session.phase = .channelOpen) :
    let visited := within (fun live => ((live.session.phase, Ending.returned), live)) live
    Visiting live visited.1 visited.2 := by
  unfold within
  rcases ran : enter.run live with ⟨error | _, entered⟩
  · cases entering_of_run ran with
    | refused refuses => simp [isOpen, Phase.refusal?] at refuses
    | failed allowed asked => exact .failed asked
  · cases entering_of_run ran with
    | entered allowed enters =>
        rename_i inside
        have exits := asked .exit (inside.setPhase .exited)
        have left : exitGuard.run (inside.setPhase .entered) =
            (ask .exit).run (inside.setPhase .exited) := run_exitGuard _
        unfold leave
        dsimp only
        rw [left]
        rcases answers : (ask .exit).run (inside.setPhase .exited) with ⟨error | _, after⟩ <;>
          rw [answers] at exits
        · exact .stuck enters exits
        · exact .returned enters exits

variable {live after : Live Kind} {visit : Option Phase × Ending}

/-- A visit keeps the channel open and the files as they were. -/
theorem Visiting.keeps (visiting : Visiting live visit after) :
    after.session.isClosed = live.session.isClosed ∧
      after.session.directory = live.session.directory ∧
      after.world.workshop = live.world.workshop := by
  cases visiting with
  | failed asked => exact ⟨by rw [asked.session_eq], by rw [asked.session_eq], asked.workshop_eq⟩
  | stuck entered exited | returned entered exited =>
      refine ⟨?_, ?_, exited.workshop_eq.trans entered.workshop_eq⟩ <;>
        rw [exited.session_eq, setPhase, entered.session_eq]

/-- A visit that returned leaves the session exited. -/
theorem Visiting.phase_eq (visiting : Visiting live (some .entered, .returned) after) :
    after.session.phase = .exited := by
  cases visiting with
  | returned entered exited => exact exited.phase_eq

/-- A session that was exited from is closed by giving it up. -/
theorem Visiting.world_close (visiting : Visiting live (some .entered, .returned) after)
    (isOpen : live.session.isClosed = false) : after.close.2 = after.drop := by
  have outside : after.session.phase ≠ .entered := by
    rw [visiting.phase_eq]
    exact Phase.noConfusion
  rw [Live.world_close (visiting.keeps.1.trans isOpen), release, exit_of_outside outside]

/-- Asking the channel is noted once, with its success. -/
theorem Asked.journal_eq {hook : Hook} {before after : Live Kind}
    {result : Except SessionError Unit} (asked : Asked hook before result after) :
    ∃ present, after.world.journal = before.world.journal ++ [.hook hook present result.isOk] := by
  rw [asked.world_eq]
  exact ⟨_, rfl⟩

end Live

/-! ## Giving up -/

/-- What is asked of the channel of a session that is visited and given up: it fails to enter and
is closed, or it is entered, exited from and closed. -/
inductive Visited : List Event → Prop
  | failed (present still closed : Bool) :
      Visited [.hook .enter present false, .hook .close still closed]
  | entered (present still last exited closed : Bool) :
      Visited [.hook .enter present true, .hook .exit still exited, .hook .close last closed]

/-- A session that is given up after a visit: its channel is closed, and all that is done to the
files is to remove its directory. -/
theorem Live.Visiting.drop [Channel Kind] {live after : Live Kind} {visit : Option Phase × Ending}
    (visiting : Visiting live visit after)
    (isOpen : live.session.isClosed = false) :
    (∃ events, after.drop.journal = live.world.journal ++ events ∧ Visited events) ∧
      after.drop.files = live.world.files.removeAll live.session.directory := by
  obtain ⟨sameClosed, sameDirectory, sameWorkshop⟩ := visiting.keeps
  have notClosed := sameClosed.trans isOpen
  constructor
  · obtain ⟨result, shut, closes, dropped⟩ := Live.dropping notClosed
    obtain ⟨last, journal⟩ := closes.journal_eq
    rw [dropped, World.journal_removeAll, journal]
    change ∃ events, after.world.journal ++ _ = live.world.journal ++ events ∧ Visited events
    cases visiting with
    | failed asked =>
        obtain ⟨present, entered⟩ := asked.journal_eq
        rw [entered, List.append_assoc]
        exact ⟨_, rfl, .failed present last _⟩
    | stuck enters exits | returned enters exits =>
        obtain ⟨present, entered⟩ := enters.journal_eq
        obtain ⟨still, exited⟩ := exits.journal_eq
        have both := exited.trans (congrArg (· ++ _) entered)
        rw [both, List.append_assoc, List.append_assoc]
        exact ⟨_, rfl, .entered present still last _ _⟩
  · rw [World.files, Live.workshop_drop notClosed, sameDirectory, sameWorkshop]
    rfl

/-! ## What is asked of channels -/

/-- Whether a channel was opened. -/
def Event.opensChannel : Event → Bool
  | .opening _ _ succeeded => succeeded
  | _ => false

/-- Either no channel is opened and nothing is asked of one, or one channel is opened, which fails
to enter and is closed, or is entered, exited from once, and closed. -/
def SettlesChannels (events : List Event) : Prop :=
  let calls := events.filterMap Event.call?
  events.countP Event.opensChannel = 0 ∧ calls = [] ∨
    events.countP Event.opensChannel = 1 ∧
      ((∃ closed, calls = [⟨.enter, false⟩, ⟨.close, closed⟩]) ∨
        ∃ exited closed, calls = [.entry, ⟨.exit, exited⟩, ⟨.close, closed⟩])

/-- A channel that is opened for a session is settled when the session is visited and given up. -/
theorem Visited.settles {events : List Event} (visited : Visited events) (deviceId : String)
    (job : CompileJob) (params : ChannelParams) :
    SettlesChannels ([.compiling deviceId job, .opening params true true] ++ events) := by
  cases visited with
  | failed present still closed => exact .inr ⟨rfl, .inl ⟨closed, rfl⟩⟩
  | entered present still last exited closed => exact .inr ⟨rfl, .inr ⟨exited, closed, rfl⟩⟩

namespace Session

variable {setup : SessionSetup Kind} {config : DeviceConfig} {before after : World}

/-- A build that stops at a stage has opened no channel. -/
theorem opensChannel_of_asked {stage : BuildStage} {event : Event}
    (member : event ∈ asked config before stage) : event.opensChannel = false := by
  cases stage <;> simp only [asked, List.mem_cons, List.not_mem_nil, or_false] at member
  case opening => rcases member with rfl | rfl <;> rfl
  all_goals
    rw [member]
    rfl

/-- A build that fails opens no channel. -/
theorem settles_of_build_error {error : SessionError}
    (failed : (build setup config).run before = (.error error, after)) :
    ∃ events, after.journal = before.journal ++ events ∧ SettlesChannels events := by
  have ends := (passes_build setup config before).ends
  rw [failed] at ends
  rcases first : firstFault? setup config before BuildStage.all with _ | ⟨stage, refusal⟩ <;>
    rw [first] at ends
  · obtain ⟨session, succeeds, -⟩ := ends
    cases succeeds
  · obtain ⟨_, -, -, stopped⟩ := ends
    refine ⟨asked config before stage, stopped.1, .inl ⟨?_, ?_⟩⟩
    · rw [List.countP_eq_zero]
      intro event member
      rw [opensChannel_of_asked member]
      exact Bool.false_ne_true
    · exact List.filterMap_eq_nil_iff.mpr fun event => call_of_asked

end Session

end MicroDevice
