import MicroDevice.Build.Toolchain
import MicroDevice.Proofs.Build.Workshop

/-! # The parts of a compilation

A compilation makes directories, writes files, looks at a source and calls tools. What holds of
these parts and is passed on to composite actions (`Workshop.Composes`) holds of putting sources in
place (`ToolchainFamily.HoldsInStaging.stageSources`) and of all work in the scratch directory
(`ToolchainFamily.HoldsInStaging.compileIn`).
-/

namespace MicroDevice

variable {Holds : (Answer : Type) → Action Workshop BuildError Answer → Prop}

/-- A property of actions that mere answers have, and composite actions if their parts have it. -/
structure Workshop.Composes
    (Holds : (Answer : Type) → Action Workshop BuildError Answer → Prop) : Prop where
  answer : ∀ {Answer : Type} (value : Answer), Holds Answer (pure value)
  bind : ∀ {Answer Next : Type} {action : Action Workshop BuildError Answer}
    {next : Answer → Action Workshop BuildError Next},
    Holds Answer action → (∀ value, Holds Next (next value)) → Holds Next (action >>= next)

namespace Workshop

/-- Moving along a preorder composes. -/
theorem composes_moves (along : Workshop → Workshop → Prop) [IsPreorder Workshop along] :
    Composes fun _ action => action.Moves along where
  answer := Action.moves_pure
  bind := Action.Moves.bind

/-- Failing with given errors only composes. -/
theorem composes_failsOnly (allowed : BuildError → Prop) :
    Composes fun _ action => action.FailsOnly allowed where
  answer := Action.failsOnly_pure
  bind := Action.FailsOnly.bind

/-- What composes holds of writing the headers if it holds of making their directory and of writing
each. -/
theorem Composes.writeHeaders (composes : Composes Holds) {directory : Path}
    (makes : Holds Unit (makeDirectories directory))
    (writes : ∀ name ∈ [Sources.runtimeHeaderName, Sources.redirectHeaderName], ∀ contents,
      Holds Unit (write (directory.join name) contents)) :
    Holds Path (Sources.writeHeaders directory) := by
  refine composes.bind makes fun _ => ?_
  refine composes.bind (writes _ List.mem_cons_self _) fun _ => ?_
  have second := List.mem_cons_of_mem Sources.runtimeHeaderName
    (List.mem_singleton_self Sources.redirectHeaderName)
  exact composes.bind (writes _ second _) fun _ => composes.answer _

/-- What composes holds of writing sources if it holds of writing each. -/
theorem Composes.writeEach (composes : Composes Holds) {directory : Path}
    {sources : List Sources.SourceFile}
    (writes : ∀ source ∈ sources, ∀ contents,
      Holds Unit (write (directory.join source.1) contents)) :
    Holds (List Path) (Sources.writeEach directory sources) := by
  induction sources with
  | nil => exact composes.answer []
  | cons source later ih =>
      refine composes.bind (writes source List.mem_cons_self _) fun _ => ?_
      have others := ih fun other member => writes other (List.mem_cons_of_mem source member)
      exact composes.bind others fun _ => composes.answer _

/-- What composes holds of compiling sources if it holds of every call. -/
theorem Composes.compileEach (composes : Composes Holds)
    (calls : ∀ tool arguments, Holds Unit (callTool tool arguments)) (tool : String)
    (arguments : Path → Path → List String) (scratch : Path) (index : Nat) (sources : List Path) :
    Holds (List Path) (ToolchainFamily.compileEach tool arguments scratch index sources) := by
  induction sources generalizing index with
  | nil => exact composes.answer []
  | cons source later ih =>
      refine composes.bind (calls _ _) fun _ => ?_
      exact composes.bind (ih (index + 1)) fun _ => composes.answer _

end Workshop

namespace ToolchainFamily

/-- The directories that are made to put the sources of a job in place. -/
inductive MakesDirectory (job : CompileJob) (scratch : Path) : Path → Prop
  | headers : MakesDirectory job scratch (scratch.join "include")
  | support (isRuntime : job.libType = .runtime) :
      MakesDirectory job scratch (scratch.join "device")

/-- The files that are written to put the sources of a job in place. -/
inductive WritesFile (family : ToolchainFamily) (job : CompileJob) (scratch : Path) : Path → Prop
  | header {name : String}
      (isHeader : name ∈ [Sources.runtimeHeaderName, Sources.redirectHeaderName]) :
      WritesFile family job scratch ((scratch.join "include").join name)
  | support {source : Sources.SourceFile} (isRuntime : job.libType = .runtime)
      (member : source ∈ family.sources) :
      WritesFile family job scratch ((scratch.join "device").join source.1)
  | copy (isOperator : job.libType = .operator) :
      WritesFile family job scratch (scratch.join (job.source.fileName?.getD "operator.c"))

/-- What composes and holds of each part of putting the sources of a job in place. -/
structure HoldsInStaging (family : ToolchainFamily) (job : CompileJob) (scratch : Path)
    (Holds : (Answer : Type) → Action Workshop BuildError Answer → Prop) : Prop where
  composes : Workshop.Composes Holds
  looks : ∀ view : FileTree → Except IoFault String, Holds String (Workshop.look view)
  makes : ∀ path, MakesDirectory job scratch path → Holds Unit (Workshop.makeDirectories path)
  writes : ∀ path contents, family.WritesFile job scratch path →
    Holds Unit (Workshop.write path contents)

namespace HoldsInStaging

variable {family : ToolchainFamily} {job : CompileJob} {scratch : Path}

/-- What holds in staging holds of writing the headers. -/
theorem writeHeaders (parts : family.HoldsInStaging job scratch Holds) :
    Holds Path (Sources.writeHeaders (scratch.join "include")) :=
  parts.composes.writeHeaders (parts.makes _ .headers) fun _ isHeader contents =>
    parts.writes _ contents (.header isHeader)

/-- What holds in staging holds of putting the sources in place. -/
theorem stageSources (parts : family.HoldsInStaging job scratch Holds) :
    Holds (List Path) (family.stageSources job scratch) := by
  have composes := parts.composes
  unfold ToolchainFamily.stageSources
  split
  · rename_i isRuntime
    refine composes.bind ?_ fun _ => composes.answer _
    refine composes.bind (parts.makes _ (.support isRuntime)) fun _ => ?_
    exact composes.writeEach fun source member contents =>
      parts.writes _ contents (.support isRuntime member)
  · rename_i isOperator
    refine composes.bind ?_ fun _ => composes.answer _
    refine composes.bind (parts.looks _) fun _ => ?_
    exact composes.bind (parts.writes _ _ (.copy isOperator)) fun _ => composes.answer _

/-- All that is left to do once the sources are in place is to call tools. -/
theorem compileIn (parts : family.HoldsInStaging job scratch Holds) (host : Host)
    (calls : ∀ tool arguments, Holds Unit (Workshop.callTool tool arguments)) :
    Holds Unit (family.compileIn host job scratch) := by
  have composes := parts.composes
  refine composes.bind parts.writeHeaders fun _ => ?_
  refine composes.bind parts.stageSources fun _ => ?_
  exact composes.bind (composes.compileEach calls _ _ _ _ _) fun _ => calls _ _

end HoldsInStaging

end ToolchainFamily

end MicroDevice
