import MicroDevice.Proofs.Build.Parts

/-! # How a compilation fails

A toolchain refuses a job for its word size or its layout before it does anything
(`run_compile`). After that it works in a scratch directory, where only the file system
and the tools can fail (`failsOnly_inScratch`).
-/

namespace MicroDevice

/-- The errors of the work of a compilation: those of the file system and of tools. -/
def BuildError.IsOfWork : BuildError → Prop
  | .io _ => True
  | .tool _ _ => True
  | _ => False

namespace Workshop

/-- Looking at files fails only as the work of a compilation may. -/
theorem failsOnly_look {Answer : Type} (view : FileTree → Except IoFault Answer) :
    (look view).FailsOnly BuildError.IsOfWork := by
  intro workshop error later failed
  rw [run_look] at failed
  obtain ⟨looked, -⟩ := Prod.mk.inj failed
  rcases viewed : view workshop.files with fault | answer <;> rw [viewed] at looked
  · cases looked
    trivial
  · cases looked

theorem failsOnly_io {Answer : Type} (action : Action Workshop IoFault Answer) :
    (action.widen .io).FailsOnly BuildError.IsOfWork :=
  Action.FailsOnly.widen fun _ _ _ _ => trivial

/-- A call of a tool fails only as the work of a compilation may. -/
theorem failsOnly_callTool (tool : String) (arguments : List String) :
    (callTool tool arguments).FailsOnly BuildError.IsOfWork := by
  intro workshop error later failed
  unfold callTool Action.run at failed
  split at failed
  · dsimp only at failed
    split at failed
    · cases failed
      trivial
    · split at failed <;> cases failed
      trivial
  · cases failed
    trivial

/-- Work that fails only so still does when it is done in a temporary directory. -/
theorem failsOnly_inTemporary {Answer : Type} (stem : String)
    {work : Path → Action Workshop BuildError Answer}
    (fails : ∀ directory, (work directory).FailsOnly BuildError.IsOfWork) :
    (inTemporary stem work).FailsOnly BuildError.IsOfWork :=
  (failsOnly_io _).bind fun directory => (fails directory).thenAlways _

end Workshop

namespace ToolchainFamily

/-- In the scratch directory only the file system and the tools can fail. -/
theorem failsOnly_inScratch (family : ToolchainFamily) (host : Host) (job : CompileJob) :
    (Workshop.inTemporary ".tmp" (family.compileIn host job)).FailsOnly BuildError.IsOfWork := by
  apply Workshop.failsOnly_inTemporary
  intro scratch
  have parts : family.HoldsInStaging job scratch
      fun _ action => action.FailsOnly BuildError.IsOfWork := {
    composes := Workshop.composes_failsOnly _
    looks := Workshop.failsOnly_look
    makes _ _ := Workshop.failsOnly_io _
    writes _ _ _ := Workshop.failsOnly_io _ }
  exact parts.compileIn host Workshop.failsOnly_callTool

/-! ## Layouts -/

/-- A job of an accepted word size is refused for its layout, with nothing done, or worked on. -/
theorem run_compile (family : ToolchainFamily) (host : Host) {job : CompileJob}
    (sized : family.checkWordSize job.options.wordSize = .ok ()) (workshop : Workshop) :
    (family.compile host job).run workshop =
      match family.checkLayout job.options.layout with
      | .error error => (.error error, workshop)
      | .ok () => (Workshop.inTemporary ".tmp" (family.compileIn host job)).run workshop := by
  rw [compile, Action.run_bind, Action.run_ofResult, sized]
  dsimp only
  rw [Action.run_bind, Action.run_ofResult]
  rcases family.checkLayout job.options.layout with error | _ <;> rfl

/-- A layout is refused by its first overlap. -/
theorem checkLayout_some (family : ToolchainFamily) (layout : MemoryLayout) :
    family.checkLayout (some layout) =
      match layout.overlappingPairs with
      | [] => .ok ()
      | pair :: _ => .error (.layout family.deviceId (.overlap pair.1.kind pair.2.kind)) := by
  unfold checkLayout
  rw [Option.bind_some]
  cases layout.overlappingPairs <;> rfl

/-- A job of an accepted word size is refused for its layout just if regions overlap. -/
theorem compile_refuses_layout_iff (family : ToolchainFamily) (host : Host) {job : CompileJob}
    {layout : MemoryLayout} (laid : job.options.layout = some layout)
    (sized : family.checkWordSize job.options.wordSize = .ok ()) (workshop : Workshop) :
    (∃ deviceId fault later, (family.compile host job).run workshop =
        (.error (.layout deviceId fault), later)) ↔ layout.overlappingPairs ≠ [] := by
  rw [family.run_compile host sized, laid, checkLayout_some]
  rcases layout.overlappingPairs with _ | ⟨pair, others⟩
  · refine iff_of_false ?_ fun some => some rfl
    rintro ⟨deviceId, fault, later, failed⟩
    exact family.failsOnly_inScratch host job workshop _ _ failed
  · exact iff_of_true ⟨_, _, _, rfl⟩ (List.cons_ne_nil pair others)

end ToolchainFamily

end MicroDevice
