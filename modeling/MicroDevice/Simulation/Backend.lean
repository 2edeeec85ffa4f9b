import MicroDevice.Build.CrossCompiler
import MicroDevice.Build.Toolchain

/-! # Scripted backends and export steps

A backend that needs no tools: for each library type it fails in a given way or writes an
object. And an export step that builds nothing: it only looks at what it is asked for.
-/

namespace MicroDevice.Simulation

/-- What a scripted backend does when it is asked to compile. -/
inductive Reaction where
  | failsTool
  | failsLayout
  | writesNothing
  /-- Write an object: the given contents, or else a mark and the source. -/
  | writes (contents : Option Bytes)

/-- Carry out a reaction. -/
def Reaction.compile (reaction : Reaction) (deviceId : String) (job : CompileJob) :
    Action Workshop BuildError Unit :=
  match reaction with
  | .failsTool => Action.fail (.tool "gcc" (.other "boom"))
  | .failsLayout => Action.fail (.layout deviceId (.other "bad"))
  | .writesNothing => return ()
  | .writes contents => do
      let source ← Workshop.look fun files => files.read job.source
      Workshop.write job.object
        (contents.getD (Text.encode (job.libType.name ++ "\n") ++ source))

/-- The backend of an id with a reaction for each library type. -/
def backend (deviceId : String) (reaction : LibType → Reaction) : DeviceBackend where
  deviceId := deviceId
  compile job := (reaction job.libType).compile deviceId job
  defaultConfig endpoint := do
    let config ← ToolchainFamily.host.defaultConfig .current endpoint
    return { config with deviceId }

/-- The export step that reads its source and then succeeds, or fails with a text. -/
def exporter (failure : Option String) : ExportCompiler where
  outputFormat := CrossCompiler.outputFormat
  compile request := do
    let _ ← Action.ofResult (request.object.single "obj_path")
    let source ← Action.ofResult (request.sources.single "src_path")
    let _ ← World.inWorkshop (Workshop.look fun files => files.readText source)
    match failure with
    | some text => Action.fail (.tool "cc" (.other text))
    | none => return ()

end MicroDevice.Simulation
