import MicroDevice.Proofs.Session.Building
import MicroDevice.Proofs.Session.Hooks

/-! # Runs of a session

The stages that a run passes are those between its steps, inside the bodies of its scopes as
well (`Stage.Passes`). What the operations of a session keep (`Stage.Invariant`) holds of every
stage that is passed, and of the last one.
-/

namespace MicroDevice

variable {Kind : Type} [Channel Kind]

namespace Live

/-- What holds of a session however its channel answers to entries and exits, and in every
phase. -/
structure KeptByCalls (Holds : Live Kind → Prop) : Prop where
  ask : ∀ hook live result after, hook ≠ .close → Holds live →
    Asked hook live result after → Holds after
  setPhase : ∀ live phase, Holds live → Holds (live.setPhase phase)

namespace KeptByCalls

variable {Holds : Live Kind → Prop}

/-- What calls and phases keep is kept by entering. -/
theorem enter (kept : KeptByCalls Holds) {live after : Live Kind}
    {result : Except SessionError Unit} (holds : Holds live)
    (entering : Entering live result after) : Holds after := by
  cases entering with
  | refused refuses => exact holds
  | failed allowed asked => exact kept.ask .enter live _ after (by decide) holds asked
  | entered allowed asked =>
      exact kept.setPhase _ .entered (kept.ask .enter live _ _ (by decide) holds asked)

theorem release (kept : KeptByCalls Holds) {live : Live Kind} (holds : Holds live) :
    Holds live.release := by
  refine release_cases live ?_ ?_
  · exact fun _ => holds
  · intro _ result after asked
    exact kept.ask .exit _ result after (by decide) (kept.setPhase live .exited holds) asked

end KeptByCalls

end Live

mutual

/-- Whether a step, or one in its body, builds something. -/
def Step.builds : Step → Bool
  | .cross _ _ => true
  | .createModule _ => true
  | .within body _ => Step.anyBuilds body
  | _ => false

/-- Whether some step builds something. -/
def Step.anyBuilds : List Step → Bool
  | [] => false
  | step :: later => step.builds || Step.anyBuilds later

end

namespace Stage

/-- The stages that are passed when steps are played: the first one, those after a step has
been played, and those of the body of a scope that was entered. -/
inductive Passes : Stage Kind → List Step → Stage Kind → Prop
  | here (stage : Stage Kind) (steps : List Step) : Passes stage steps stage
  | later {stage passed : Stage Kind} {step : Step} {steps : List Step}
      (passes : Passes (stage.play step).2 steps passed) : Passes stage (step :: steps) passed
  | inside {stage passed : Stage Kind} {inside : Live Kind} {body : List Step} {ending : Ending}
      {steps : List Step} (entered : Live.enter.run stage.live = (.ok (), inside))
      (passes : Passes (stage.begin inside).2 body passed) :
      Passes stage (.within body ending :: steps) passed

/-- The last stage is passed. -/
theorem passes_playAll (stage : Stage Kind) (steps : List Step) :
    stage.Passes steps (stage.playAll steps).2 := by
  induction steps generalizing stage with
  | nil =>
      rw [playAll]
      exact .here stage []
  | cons step steps hypothesis =>
      rw [playAll]
      exact .later (hypothesis (stage.play step).2)

/-- What the operations of a session keep, the builds among them if there may be any. -/
structure Invariant (mayBuild : Prop) (Holds : Stage Kind → Prop) : Prop where
  told : ∀ stage count, Holds stage → Holds { stage with told := count }
  forget : ∀ stage index, Holds stage → Holds (stage.forgetGuard index)
  refuse : ∀ stage error later, Holds stage →
    Live.enter.run stage.live = (.error error, later) → Holds { stage with live := later }
  enter : ∀ stage inside, Holds stage → Live.enter.run stage.live = (.ok (), inside) →
    Holds { stage with live := inside }
  gain : ∀ stage inside, Holds stage → Live.enter.run stage.live = (.ok (), inside) →
    Holds { stage with live := inside }.gainGuard
  release : ∀ stage, Holds stage → Holds { stage with live := stage.live.release }
  build : mayBuild → ∀ stage world, Holds stage →
    World.Builds stage.live.session.backend stage.live.world world →
      Holds { stage with live := { stage.live with world } }

/-- What calls and builds keep of a session, all operations keep. -/
theorem invariant_of_calls {mayBuild : Prop} {Holds : Live Kind → Prop}
    (kept : Live.KeptByCalls Holds)
    (builds : mayBuild → ∀ live world, Holds live →
      World.Builds live.session.backend live.world world → Holds { live with world }) :
    Invariant mayBuild fun stage => Holds stage.live where
  told _ _ holds := holds
  forget _ _ holds := holds
  refuse _ _ _ holds ran := kept.enter holds (Live.entering_of_run ran)
  enter _ _ holds ran := kept.enter holds (Live.entering_of_run ran)
  gain _ _ holds ran := kept.enter holds (Live.entering_of_run ran)
  release _ holds := kept.release holds
  build may stage world holds built := builds may stage.live world holds built

namespace Invariant

variable {mayBuild : Prop} {Holds : Stage Kind → Prop}

/-- An invariant is kept by entering a scope. -/
theorem entering (keeps : Invariant mayBuild Holds) {stage : Stage Kind} (holds : Holds stage) :
    Holds stage.enter.2 := by
  unfold Stage.enter act
  rcases ran : Live.enter.run stage.live with ⟨error | _, later⟩
  · exact keeps.refuse stage error later holds ran
  · exact keeps.gain stage later holds ran

theorem releaseGuard (keeps : Invariant mayBuild Holds) {stage : Stage Kind}
    (holds : Holds stage) (index : Nat) : Holds (stage.releaseGuard index) :=
  keeps.release _ (keeps.forget stage index holds)

/-- A visit is an entry, and the release of the guard that it gives. -/
theorem visit (keeps : Invariant mayBuild Holds) {stage : Stage Kind} (holds : Holds stage) :
    Holds (stage.play .visit).2 := by
  have entered := keeps.entering holds
  rw [play]
  rcases ran : stage.enter with ⟨result, later⟩
  rw [ran] at entered
  refine keeps.told _ _ ?_
  split
  · exact keeps.releaseGuard entered 0
  · exact entered

/-- An invariant is kept by exiting through a guard. -/
theorem exitGuard (keeps : Invariant mayBuild Holds) {stage : Stage Kind} (holds : Holds stage) :
    Holds (stage.act Live.exitGuard).2 := by
  unfold act
  rw [Live.run_exitGuard]
  exact keeps.release stage holds

/-- An invariant is kept by creating a module, if builds may happen. -/
theorem createModule (keeps : Invariant mayBuild Holds) {stage : Stage Kind} (holds : Holds stage)
    (may : mayBuild) (module : SourceModule) : Holds (stage.createModule module).2 := by
  obtain ⟨world, builds, later_eq⟩ := stage.builds_createModule module
  rw [later_eq]
  exact keeps.build may stage world holds builds

/-- Keeping what holds through the body of a scope keeps it through the scope. -/
theorem within (keeps : Invariant mayBuild Holds) {stage : Stage Kind} (holds : Holds stage)
    (body : List Step) (ending : Ending)
    (plays : ∀ begun, Holds begun → Holds (begun.playAll body).2) :
    Holds (stage.play (.within body ending)).2 := by
  rw [play]
  unfold Live.within
  rcases ran : Live.enter.run stage.live with ⟨error | _, inside⟩
  · exact keeps.told _ _ (keeps.refuse stage error inside holds ran)
  · have begun : Holds (stage.begin inside).2 :=
      keeps.told _ _ (keeps.enter stage inside holds ran)
    have left := keeps.release _ (plays _ begun)
    rw [← Live.leave_eq_release ending] at left
    exact keeps.told _ _ left

mutual

/-- What the operations keep holds after a step. -/
theorem play (keeps : Invariant mayBuild Holds) (stage : Stage Kind) (step : Step)
    (may : step.builds = true → mayBuild) (holds : Holds stage) : Holds (stage.play step).2 := by
  cases step with
  | enter =>
      rw [Stage.play]
      exact keeps.told _ _ (keeps.entering holds)
  | visit => exact keeps.visit holds
  | dropGuard index =>
      rw [Stage.play]
      split
      · exact keeps.told _ _ (keeps.releaseGuard holds index)
      · exact keeps.told _ _ holds
  | exitGuard index =>
      rw [Stage.play]
      split
      · exact keeps.told _ _ (keeps.exitGuard (keeps.forget stage index holds))
      · exact keeps.told _ _ holds
  | forgetGuard index =>
      rw [Stage.play]
      exact keeps.told _ _ (keeps.forget stage index holds)
  | exit =>
      rw [Stage.play]
      exact keeps.told _ _ (keeps.release stage holds)
  | phase =>
      rw [Stage.play]
      exact keeps.told _ _ holds
  | inspect =>
      rw [Stage.play]
      exact keeps.told _ _ holds
  | cross libType request =>
      rw [Stage.play]
      exact keeps.told _ _ (keeps.build (may rfl) stage _ holds
        ((stage.live.session.crossCompiler libType).moves_compileArtifact request _))
  | createModule module =>
      have built := keeps.createModule holds (may rfl) module
      rw [Stage.play]
      rcases ran : stage.createModule module with ⟨result, later⟩
      rw [ran] at built
      exact keeps.told _ _ built
  | within body ending =>
      exact keeps.within holds body ending fun begun => keeps.playAll begun body may

/-- What the operations keep holds after a run. -/
theorem playAll (keeps : Invariant mayBuild Holds) (stage : Stage Kind) (steps : List Step)
    (may : Step.anyBuilds steps = true → mayBuild) (holds : Holds stage) :
    Holds (stage.playAll steps).2 := by
  cases steps with
  | nil =>
      rw [Stage.playAll]
      exact holds
  | cons step later =>
      rw [Step.anyBuilds, Bool.or_eq_true] at may
      rw [Stage.playAll]
      exact keeps.playAll _ later (fun building => may (.inr building))
        (keeps.play stage step (fun building => may (.inl building)) holds)

end

/-- What the operations keep holds of every stage that is passed. -/
theorem passes (keeps : Invariant mayBuild Holds) {stage passed : Stage Kind} {steps : List Step}
    (passes : stage.Passes steps passed) (may : Step.anyBuilds steps = true → mayBuild)
    (holds : Holds stage) : Holds passed := by
  induction passes with
  | here stage steps => exact holds
  | later passes hypothesis =>
      rw [Step.anyBuilds, Bool.or_eq_true] at may
      refine hypothesis (fun building => may (.inr building)) ?_
      exact keeps.play _ _ (fun building => may (.inl building)) holds
  | inside entered passes hypothesis =>
      rw [Step.anyBuilds, Bool.or_eq_true, Step.builds] at may
      refine hypothesis (fun building => may (.inl building)) ?_
      exact keeps.told _ _ (keeps.enter _ _ holds entered)

end Invariant

end Stage

end MicroDevice
