import MicroDevice.Proofs.Session.Run
import MicroDevice.Simulation.Bench

/-! # Guards and the scopes they end

A guard stands for the entry that gave it, and there is one guard at most for an entry
(`Stage.Numbered`). A session does not look at a guard that is released: the release ends the
scope that is open, whoever opened it. So a guard ends its own scope alone
(`Stage.ReleasesOwn`) just if no other scope is open, and one that was kept over an exit may end
a newer scope.
-/

namespace MicroDevice

variable {Kind : Type}

namespace Stage

/-- The number of the entry whose scope is open, if one is. -/
def openScope? (stage : Stage Kind) : Option Nat :=
  if stage.live.session.phase = .entered then some stage.live.world.entryCount else none

/-- The scope that was open, if one was, has been ended by one exit. -/
def EndsScope (before after : Stage Kind) : Prop :=
  after.openScope? = none ∧
    ∃ succeeded, after.live.world.calls = before.live.world.calls ++ [⟨.exit, succeeded⟩]

/-- A release of a guard as its owner wants it: it ends the scope that the guard was given for,
and does nothing if that is not open any more. -/
def ReleasesOwn (guard : Guard) (before after : Stage Kind) : Prop :=
  if before.openScope? = some guard.entry then before.EndsScope after
  else after.openScope? = before.openScope? ∧
    after.live.world.calls = before.live.world.calls

/-- Guards stand for entries that there were, each for another, the newest first. -/
structure Numbered (stage : Stage Kind) : Prop where
  sorted : stage.guards.Pairwise fun newer older => older.entry < newer.entry
  bounded : ∀ guard ∈ stage.guards, guard.entry ≤ stage.live.world.entryCount

end Stage

namespace World

/-- One more call adds to the entries exactly when it is one. -/
theorem entryCount_eq {before after : World} {call : Call}
    (calls_eq : after.calls = before.calls ++ [call]) :
    after.entryCount = before.entryCount + if call = .entry then 1 else 0 := by
  rw [entryCount, calls_eq, List.count_append, List.count_singleton, entryCount]
  simp only [beq_iff_eq]

end World

namespace Stage.Numbered

variable {stage : Stage Kind}

/-- Numbered guards stay so while entries are only added. -/
theorem grow (numbered : stage.Numbered) {live : Live Kind}
    (grows : stage.live.world.entryCount ≤ live.world.entryCount) :
    Numbered { stage with live } where
  sorted := numbered.sorted
  bounded guard member := Nat.le_trans (numbered.bounded guard member) grows

theorem forget (numbered : stage.Numbered) (index : Nat) : (stage.forgetGuard index).Numbered where
  sorted := numbered.sorted.sublist (List.eraseIdx_sublist _ _)
  bounded guard member := numbered.bounded guard (List.mem_of_mem_eraseIdx member)

/-- A guard for a new entry is the newest. -/
theorem gain (numbered : stage.Numbered) {live : Live Kind}
    (grows : stage.live.world.entryCount < live.world.entryCount) :
    Numbered { stage with live }.gainGuard where
  sorted := by
    refine List.pairwise_cons.mpr ⟨?_, numbered.sorted⟩
    intro guard member
    exact Nat.lt_of_le_of_lt (numbered.bounded guard member) grows
  bounded guard member := by
    rcases List.mem_cons.mp member with rfl | older
    · exact Nat.le_refl _
    · exact Nat.le_trans (numbered.bounded guard older) (Nat.le_of_lt grows)

end Stage.Numbered

/-- Ending a scope takes a call. -/
theorem Stage.EndsScope.calls_ne {before after : Stage Kind} (ends : before.EndsScope after) :
    after.live.world.calls ≠ before.live.world.calls := by
  obtain ⟨-, succeeded, calls_eq⟩ := ends
  rw [calls_eq]
  simp

variable [Channel Kind]

namespace Live

/-- A failed entry is not counted. -/
theorem entryCount_of_enter_error {before after : Live Kind} {error : SessionError}
    (failed : enter.run before = (.error error, after)) :
    after.world.entryCount = before.world.entryCount := by
  cases entering_of_run failed with
  | refused refuses => rfl
  | failed allowed asked =>
      rw [World.entryCount_eq asked.calls_eq]
      rfl

/-- A successful entry is counted once. -/
theorem entryCount_of_enter {before after : Live Kind} (ran : enter.run before = (.ok (), after)) :
    after.world.entryCount = before.world.entryCount + 1 := by
  cases entering_of_run ran with
  | entered allowed asked => exact World.entryCount_eq asked.calls_eq

theorem entryCount_release (live : Live Kind) :
    live.release.world.entryCount = live.world.entryCount := by
  refine release_cases live ?_ ?_
  · intro _
    rfl
  · intro _ result after asked
    rw [World.entryCount_eq asked.calls_eq]
    rfl

end Live

namespace Stage

/-- All operations of a session keep the guards numbered. -/
theorem invariant_numbered : Invariant True (Numbered : Stage Kind → Prop) where
  told _ _ numbered := ⟨numbered.sorted, numbered.bounded⟩
  forget _ index numbered := numbered.forget index
  refuse _ _ _ numbered ran :=
    numbered.grow (Nat.le_of_eq (Live.entryCount_of_enter_error ran).symm)
  enter _ _ numbered ran := numbered.grow (by simp [Live.entryCount_of_enter ran])
  gain _ _ numbered ran := numbered.gain (by simp [Live.entryCount_of_enter ran])
  release _ numbered := numbered.grow (Nat.le_of_eq (Live.entryCount_release _).symm)
  build _ _ _ numbered builds := numbered.grow (by simp [World.entryCount, builds.calls_eq])

/-- The two ways to release a guard do the same to the session. -/
theorem live_play_release {stage : Stage Kind} {index : Nat} {guard : Guard}
    (alive : stage.guards[index]? = some guard) {step : Step}
    (releases : step = .dropGuard index ∨ step = .exitGuard index) :
    (stage.play step).2.live = stage.live.release := by
  have present : index < stage.guards.length := (List.getElem?_eq_some_iff.mp alive).1
  rcases releases with rfl | rfl
  · rw [play, if_pos present]
    rfl
  · rw [play, if_pos present]
    unfold act
    rw [Live.run_exitGuard]
    rfl

/-- A release ends the scope that is open, if one is. -/
theorem endsScope_of_release {before after : Stage Kind}
    (released : after.live = before.live.release) (isOpen : before.openScope? ≠ none) :
    before.EndsScope after := by
  have outside : after.live.session.phase ≠ .entered := by
    rw [released]
    exact before.live.phase_release_ne
  refine ⟨by rw [openScope?, if_neg outside], ?_⟩
  have inside : before.live.session.phase = .entered := by
    by_contra apart
    exact isOpen (by rw [openScope?, if_neg apart])
  rw [released]
  refine Live.release_cases before.live ?_ ?_
  · exact fun apart => absurd inside apart
  · intro _ result later asked
    exact ⟨result.isOk, asked.calls_eq⟩

/-- Whatever was done with a session before, releasing a guard ends the guard's own scope alone
just if no other scope is open. Otherwise it ends the other scope, which is newer. -/
theorem releasesOwn_iff {session : Session Kind} {opened : World} {steps : List Step}
    {stage : Stage Kind} (passes : (start session opened).Passes steps stage)
    {index : Nat} {guard : Guard}
    (alive : stage.guards[index]? = some guard) {step : Step}
    (releases : step = .dropGuard index ∨ step = .exitGuard index) :
    (stage.ReleasesOwn guard (stage.play step).2 ↔
      stage.openScope? = none ∨ stage.openScope? = some guard.entry) ∧
    ∀ other, stage.openScope? = some other → other ≠ guard.entry →
      guard.entry < other ∧ stage.EndsScope (stage.play step).2 := by
  have released := live_play_release alive releases
  have numbered : stage.Numbered :=
    invariant_numbered.passes passes (fun _ => trivial) ⟨.nil, by simp [start]⟩
  refine ⟨⟨?_, ?_⟩, ?_⟩
  · intro own
    by_cases isOpen : stage.openScope? = none
    · exact .inl isOpen
    · right
      by_contra foreign
      rw [ReleasesOwn, if_neg foreign] at own
      exact (endsScope_of_release released isOpen).calls_ne own.2
  · rintro (closed | isOwn)
    · have outside : stage.live.session.phase ≠ .entered := by
        intro entered
        rw [openScope?, if_pos entered] at closed
        cases closed
      have idle : (stage.play step).2.live = stage.live := by
        rw [released, Live.release, Live.exit_of_outside outside]
      rw [ReleasesOwn, if_neg (by simp [closed]), openScope?, idle]
      exact ⟨rfl, rfl⟩
    · rw [ReleasesOwn, if_pos isOwn]
      exact endsScope_of_release released (by simp [isOwn])
  · intro other isOpen foreign
    have ends := endsScope_of_release released (by simp [isOpen])
    refine ⟨?_, ends⟩
    have older := numbered.bounded guard (List.mem_of_getElem? alive)
    have newest : stage.live.world.entryCount = other := by
      unfold openScope? at isOpen
      split at isOpen
      · exact Option.some.inj isOpen
      · cases isOpen
    omega

/-- A guard that was kept over an exit, released after the session was entered again. -/
theorem stale_guard_ends_newer :
    ∃ session opened, Simulation.benchBuild (fun _ => []) = (.ok session, opened) ∧
      let stage := ((start session opened).playAll [.enter, .exit, .enter]).2
      stage.guards[1]? = some ⟨1⟩ ∧ stage.openScope? = some 2 ∧
        ¬ stage.ReleasesOwn ⟨1⟩ (stage.play (.dropGuard 1)).2 ∧
        stage.EndsScope (stage.play (.dropGuard 1)).2 := by
  obtain ⟨session, opened, built⟩ := Simulation.benchBuild_ok fun _ => []
  have stages := Simulation.benchStage_of_built built [.enter, .exit, .enter]
  have seen : (Simulation.benchStage (fun _ => []) [.enter, .exit, .enter]).map
      (fun stage => (stage.guards[1]?, stage.openScope?)) = some (some ⟨1⟩, some 2) := by
    decide +kernel
  rw [stages] at seen
  obtain ⟨alive, isOpen⟩ := Prod.mk.inj (Option.some.inj seen)
  obtain ⟨own, foreign⟩ := releasesOwn_iff
    (passes_playAll (start session opened) [.enter, .exit, .enter]) alive (.inl rfl)
  refine ⟨session, opened, built, alive, isOpen, ?_, (foreign 2 isOpen (by decide)).2⟩
  rw [own, isOpen]
  decide

end Stage

end MicroDevice
