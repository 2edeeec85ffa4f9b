import MicroDevice.CommandLine.Commands
import MicroDevice.Proofs.Build.Failures
import MicroDevice.Proofs.Build.Registry
import MicroDevice.Simulation.Bench

/-! # Configurations without issues

A configuration without issues is for a built-in device, and its regions do not overlap. Its
compilations are therefore refused for one cause alone, which validation does not look at: the
word size that the family of the device is built for.
-/

namespace MicroDevice

namespace ToolchainFamily

variable {family : ToolchainFamily} {host : Host} {job : CompileJob} {fixed requested : UInt32}

/-- Whether a family builds for a word size. -/
def BuildsFor (family : ToolchainFamily) (wordSize : UInt32) : Prop :=
  ∀ fixed ∈ family.wordSize, fixed = wordSize

/-- A family does not build for a word size exactly when its own is fixed to another. -/
theorem not_buildsFor_iff :
    ¬ family.BuildsFor requested ↔ ∃ fixed, family.wordSize = some fixed ∧ fixed ≠ requested := by
  simp [BuildsFor, Option.mem_def]

/-- A word size that the family builds for passes the check. -/
theorem checkWordSize_ok (builds : family.BuildsFor requested) :
    family.checkWordSize (some requested) = .ok () := by
  unfold checkWordSize
  split
  · rename_i fixed asked sized requests
    cases requests
    exact if_pos (builds fixed sized)
  · rfl

/-- Another word size than the fixed one is refused, with both in the error. -/
theorem checkWordSize_error (sized : family.wordSize = some fixed) (other : fixed ≠ requested) :
    family.checkWordSize (some requested) =
      .error (.argument (.wordSize family.deviceId fixed requested)) := by
  unfold checkWordSize
  rw [sized]
  exact if_neg other

/-- A job of another word size is refused before anything is done. -/
theorem run_compile_of_unsized {error : BuildError}
    (unsized : family.checkWordSize job.options.wordSize = .error error) (workshop : Workshop) :
    (family.compile host job).run workshop = (.error error, workshop) := by
  rw [compile, Action.run_bind, Action.run_ofResult, unsized]

/-- A job of a word size that is built for, and without overlaps, is worked on. -/
theorem run_compile_of_apart {layout : MemoryLayout}
    (sized : family.checkWordSize job.options.wordSize = .ok ())
    (laid : job.options.layout = some layout) (apart : layout.overlappingPairs = [])
    (workshop : Workshop) :
    (family.compile host job).run workshop =
      (Workshop.inTemporary ".tmp" (family.compileIn host job)).run workshop := by
  rw [family.run_compile host sized, laid, checkLayout_some, apart]

end ToolchainFamily

namespace Registry

variable {host : Host} {config : DeviceConfig}

/-- What has no issues is not blank, known, and without overlaps. -/
theorem parts_of_no_issues {registry : Registry} (accepted : registry.issues config = []) :
    Text.trim config.deviceId ≠ "" ∧ (∃ backend, registry.find? config.deviceId = some backend) ∧
      config.memLayout.overlappingPairs = [] := by
  rw [issues, DeviceConfig.issues] at accepted
  simp only [List.append_eq_nil_iff, List.map_eq_nil_iff] at accepted
  obtain ⟨⟨⟨⟨⟨named, -⟩, -⟩, -⟩, apart⟩, known⟩ := accepted
  have notBlank : Text.trim config.deviceId ≠ "" := by
    intro blank
    rw [if_pos blank] at named
    cases named
  refine ⟨notBlank, ?_, apart⟩
  rcases found : registry.find? config.deviceId with _ | backend
  · have notEmpty : config.deviceId ≠ "" := by
      intro empty
      rw [empty] at notBlank
      exact notBlank (by decide)
    rw [if_pos ⟨notEmpty, found⟩] at known
    cases known
  · exact ⟨backend, rfl⟩

/-- A configuration without issues is compiled with the family of its device, whatever the source.
If the family builds for the word size that is configured, the work is begun, and it fails only by
the file system or a tool. Otherwise the job is refused for its word size, with nothing done. -/
theorem compiles_of_no_issues (accepted : (builtins host).issues config = []) :
    ∃ family ∈ ToolchainFamily.builtins,
      (builtins host).get config.deviceId = .ok (family.backend host) ∧
      ∀ (object source : Path) (libType : LibType) (flags : List String) (workshop : Workshop),
        let job : CompileJob :=
          ⟨object, source, libType, (CompileOptions.ofConfig config).withFlags flags⟩
        (family.BuildsFor config.wordSize →
          ((family.backend host).compile job).run workshop =
              (Workshop.inTemporary ".tmp" (family.compileIn host job)).run workshop ∧
            ∀ error later, ((family.backend host).compile job).run workshop =
              (.error error, later) → error.IsOfWork) ∧
        (¬ family.BuildsFor config.wordSize → ∃ fixed, family.wordSize = some fixed ∧
          ((family.backend host).compile job).run workshop =
            (.error (.argument (.wordSize config.deviceId fixed config.wordSize)), workshop)) := by
  obtain ⟨-, ⟨backend, found⟩, apart⟩ := parts_of_no_issues accepted
  obtain ⟨family, isBuiltin, named, rfl⟩ := family_of_builtins found
  refine ⟨family, isBuiltin, by rw [get, found], ?_⟩
  intro object source libType flags workshop job
  constructor
  · intro builds
    have works : (family.compile host job).run workshop =
        (Workshop.inTemporary ".tmp" (family.compileIn host job)).run workshop :=
      ToolchainFamily.run_compile_of_apart (ToolchainFamily.checkWordSize_ok builds) rfl apart
        workshop
    exact ⟨works, fun error later failed =>
      family.failsOnly_inScratch host job workshop error later (works.symm.trans failed)⟩
  · intro unsized
    obtain ⟨fixed, sized, other⟩ := ToolchainFamily.not_buildsFor_iff.mp unsized
    refine ⟨fixed, sized, ?_⟩
    rw [← named]
    exact ToolchainFamily.run_compile_of_unsized (ToolchainFamily.checkWordSize_error sized other)
      workshop

/-- Validation has nothing against 64-bit code for a 32-bit board, which is refused. -/
theorem refused_without_issues :
    let config := { Simulation.benchConfig with deviceId := "arm.stm32f746xx" }
    (builtins .current).issues config = [] ∧
      ∃ backend, (builtins .current).get config.deviceId = .ok backend ∧
        ∀ (object source : Path) (libType : LibType) (workshop : Workshop),
          (backend.compile ⟨object, source, libType,
              (CompileOptions.ofConfig config).withFlags []⟩).run workshop =
            (.error (.argument (.wordSize "arm.stm32f746xx" 32 64)), workshop) := by
  intro config
  have accepted : (builtins .current).issues config = [] := by decide
  refine ⟨accepted, ?_⟩
  obtain ⟨family, isBuiltin, known, compiles⟩ := compiles_of_no_issues accepted
  refine ⟨_, known, fun object source libType workshop => ?_⟩
  have narrow : ∀ family ∈ ToolchainFamily.builtins, family.deviceId = "arm.stm32f746xx" →
      family.wordSize = some 32 := by
    decide
  have sized := narrow family isBuiltin (deviceId_of_get known)
  have unsized : ¬ family.BuildsFor 64 :=
    ToolchainFamily.not_buildsFor_iff.mpr ⟨32, sized, by decide⟩
  obtain ⟨fixed, sizedSo, refused⟩ := (compiles object source libType [] workshop).2 unsized
  cases sized.symm.trans sizedSo
  exact refused

end Registry

end MicroDevice
