import MicroDevice.Build.CrossCompiler
import MicroDevice.Object.Format
import MicroDevice.Session.Error

/-! # Operator modules

A source module is written out, exported as a library by a compiler, and loaded again as a
module. The module owns the directory of its library; modules do not depend on sessions.
-/

namespace MicroDevice

/-- The source of an operator library. -/
structure SourceModule where
  name : String
  source : String
  deriving DecidableEq, Repr

/-- The file name of an exported library. -/
def libraryName : String := "dev_lib.obj"

namespace SourceModule

/-- Whether a name can be that of a file in a directory: as a path it has one normal component,
and it has no slash and no backslash. -/
def isPlainName (name : String) : Bool :=
  match Path.components ⟨name⟩ with
  | [.normal _] => !name.toList.contains '/' && !name.toList.contains '\\'
  | _ => false

/-- Where the source of a module is written for a library: beside the library. -/
def sourcePath (module : SourceModule) (library : Path) : Path :=
  (library.parent?.getD ⟨"."⟩).join (module.name ++ ".c")

/-- Write the source of a module beside a library and have a compiler build the library. -/
def exportLibrary (module : SourceModule) (library : Path) (compiler : ExportCompiler) :
    Action World SessionError Unit :=
  if isPlainName module.name then do
    let path := module.sourcePath library
    World.inWorkshop ((Workshop.put path (Text.encode module.source)).widen .io)
    (compiler.request ⟨.one library, .many [path], none⟩).widen .build
  else Action.fail (.build (.argument (.moduleName module.name)))

end SourceModule

/-- A loaded operator library. -/
structure MicroModule where
  name : String
  artifact : ObjectArtifact
  /-- The format of the object. -/
  format : String
  /-- The functions that the library defines for others. -/
  symbols : List String
  /-- The directory that the module owns. -/
  directory : Option Path
  deriving DecidableEq, Repr

namespace MicroModule

/-- Whether a library defines a function for others. -/
def hasSymbol (module : MicroModule) (name : String) : Bool :=
  module.symbols.contains name

/-- Give a module up: the directory that it owns is removed. -/
def release (module : MicroModule) (world : World) : World :=
  match module.directory with
  | some directory => world.removeAll directory
  | none => world

end MicroModule

/-- How a library is loaded from a file. -/
abbrev ModuleLoader := FileTree → Path → Except SessionError MicroModule

/-- The format and the symbols of an object. -/
def inspectObject (contents : Bytes) : Except LoadFault (String × List String) :=
  match Object.ObjectFile.ofBytes? contents with
  | none => .error .broken
  | some .foreign => .error .foreign
  | some .machO => .ok ("mach-o", [])
  | some (.elf elf) =>
      .ok (match elf.form.width with
        | .bits32 => "elf32"
        | .bits64 => "elf64", elf.globalFunctions)

/-- Load a library by inspecting its object file. -/
def loadObject : ModuleLoader := fun files path => do
  let contents ← (files.read path).mapError fun fault => .load path (.unreadable fault)
  let (format, symbols) ← (inspectObject contents).mapError (.load path)
  return ⟨path.fileStem?.getD "", .ofBytes path contents, format, symbols, none⟩

/-- Build a module with a compiler in a directory that is there already, and load it. -/
def buildModuleIn (compiler : ExportCompiler) (loader : ModuleLoader) (module : SourceModule)
    (directory : Path) : Action World SessionError MicroModule := do
  let library := directory.join libraryName
  module.exportLibrary library compiler
  let loaded ← World.look fun files => loader files library
  return { loaded with directory := some directory }

/-- Build a module with a compiler and load it. The directory is removed unless the module is
there to own it. -/
def buildModule (compiler : ExportCompiler) (loader : ModuleLoader) (module : SourceModule) :
    Action World SessionError MicroModule := do
  let directory ← World.inWorkshop ((Workshop.makeTemporary "micrort-mod-").widen .io)
  (buildModuleIn compiler loader module directory).orTidy (World.removeAll directory)

/-- Build a module for the device of a configuration and load it. -/
def createModule (registry : Registry) (loader : ModuleLoader) (module : SourceModule)
    (config : DeviceConfig) : Action World SessionError MicroModule := do
  let compiler ← Action.ofResult ((CrossCompiler.make registry config .operator).mapError .build)
  buildModule compiler.exportCompiler loader module

end MicroDevice
