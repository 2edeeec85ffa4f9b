import MicroDevice.Build.Artifact
import MicroDevice.Build.Registry
import MicroDevice.World

/-! # Cross compilers

An export step turns sources into an object. A cross compiler is the export step of a
backend for one library type, with the options of one configuration.
-/

namespace MicroDevice

/-- A step that turns sources into an object of some format. -/
structure ExportCompiler where
  outputFormat : String
  compile : ExportRequest → Action World BuildError Unit

/-- Ask an export step for a library. -/
def ExportCompiler.request (compiler : ExportCompiler) (request : ExportRequest) :
    Action World BuildError Unit := do
  Action.change (World.note (.exporting request))
  compiler.compile request

/-- A backend with the library type and the options it is to build with. -/
structure CrossCompiler where
  backend : DeviceBackend
  libType : LibType
  options : CompileOptions

namespace CrossCompiler

/-- The cross compiler of a backend for a configuration. -/
def ofConfig (backend : DeviceBackend) (config : DeviceConfig) (libType : LibType) :
    CrossCompiler :=
  ⟨backend, libType, .ofConfig config⟩

/-- The cross compiler for a configuration, whose device has to be known. -/
def make (registry : Registry) (config : DeviceConfig) (libType : LibType) :
    Except BuildError CrossCompiler := do
  let backend ← registry.get config.deviceId
  return ofConfig backend config libType

/-- The format of the objects. -/
def outputFormat : String := "obj"

/-- The options of a request: those of the configuration and the flags of the request. -/
def requestOptions (compiler : CrossCompiler) (flags : Option (List String)) : CompileOptions :=
  match flags with
  | some flags => compiler.options.withFlags flags
  | none => compiler.options

/-- Build an object from one source. -/
def compile (compiler : CrossCompiler) (request : ExportRequest) :
    Action World BuildError Unit := do
  let object ← Action.ofResult (request.object.single "obj_path")
  let source ← Action.ofResult (request.sources.single "src_path")
  compiler.backend.request
    ⟨object, source, compiler.libType, compiler.requestOptions request.flags⟩

/-- Build an object from one source and describe it. -/
def compileArtifact (compiler : CrossCompiler) (request : ExportRequest) :
    Action World BuildError ObjectArtifact := do
  let object ← Action.ofResult (request.object.single "obj_path")
  compiler.compile { request with object := .one object }
  World.inWorkshop (Workshop.look fun files => ObjectArtifact.ofFile files object)

/-- A cross compiler as an export step. -/
def exportCompiler (compiler : CrossCompiler) : ExportCompiler :=
  ⟨outputFormat, compiler.compile⟩

end CrossCompiler

end MicroDevice
