import MicroDevice.Build.Backend
import MicroDevice.Build.Sources
import MicroDevice.Host
import MicroDevice.Memory.Plan

/-! # Toolchain families

Device families that are built for with a compiler and a linker. Every source is compiled
to an object in a scratch directory, and the objects are linked into one relocatable
object. Operator sources are compiled as a copy that begins with the redirect header.
-/

namespace MicroDevice

/-- Where the default layout of a family comes from. -/
inductive LayoutTemplate where
  /-- Sizes without addresses. -/
  | sizes (entries : List (RegionKind × UInt64))
  /-- Sections to place from an address. -/
  | placed (base available : UInt64) (sections : List Section)

/-- A family of devices that is built for with a toolchain. -/
structure ToolchainFamily where
  deviceId : String
  toolchainPrefix : String
  /-- The compiler flags of the family. -/
  flags : List String
  sources : List Sources.SourceFile
  /-- Whether code runs on the host itself. -/
  runsOnHost : Bool
  /-- The word size in bits, if the family has only one. -/
  wordSize : Option UInt32
  thumbMode : Bool
  method : CommsMethod
  layout : LayoutTemplate

namespace ToolchainFamily

/-- The flags that every compilation begins with. -/
def baseFlags : List String :=
  ["-std=c11", "-Wall", "-Wextra", "--pedantic", "-c", "-O0", "-g", "-nostartfiles",
    "-nodefaultlibs", "-nostdlib", "-fdata-sections", "-ffunction-sections"]

/-- The flag for Thumb code. -/
def thumbFlag : String := "-mthumb"

/-- The compiler flags of a compilation on a host, from the general to the particular. -/
def compilerFlags (family : ToolchainFamily) (options : CompileOptions) (host : Host) :
    List String :=
  let own := baseFlags ++ family.flags ++
    if family.runsOnHost && host.isLinux && host.is64Bit then ["-mcmodel=large"] else []
  let mode := if options.thumbMode && !own.contains thumbFlag then [thumbFlag] else []
  own ++ mode ++ options.flags

/-- A family with a fixed word size builds for that size only. -/
def checkWordSize (family : ToolchainFamily) (requested : Option UInt32) :
    Except BuildError Unit :=
  match family.wordSize, requested with
  | some fixed, some requested =>
      if fixed = requested then .ok ()
      else .error (.argument (.wordSize family.deviceId fixed requested))
  | _, _ => .ok ()

/-- The regions of a layout may not overlap. -/
def checkLayout (family : ToolchainFamily) (layout : Option MemoryLayout) :
    Except BuildError Unit :=
  match layout.bind fun layout => layout.overlappingPairs.head? with
  | some (first, second) => .error (.layout family.deviceId (.overlap first.kind second.kind))
  | none => .ok ()

/-- The copy of an operator source, which begins with the redirect header. -/
def redirected (text : String) : String :=
  "#include \"" ++ Sources.redirectHeaderName ++ "\"\n" ++ text

/-- Copy an operator source into a directory with the redirect header in front. -/
def stageOperator (source directory : Path) : Action Workshop BuildError Path := do
  let text ← Workshop.look fun files => files.readText source
  let path := directory.join (source.fileName?.getD "operator.c")
  Workshop.write path (Text.encode (redirected text))
  return path

/-- The sources of a job: the runtime with the support sources of the device, or the staged
copy of an operator. -/
def stageSources (family : ToolchainFamily) (job : CompileJob) (scratch : Path) :
    Action Workshop BuildError (List Path) :=
  match job.libType with
  | .runtime => do
      let support ← Sources.writeDeviceSources (scratch.join "device") family.sources
      return job.source :: support
  | .operator => do
      let staged ← stageOperator job.source scratch
      return [staged]

/-- The object of a source in the scratch directory. Its name begins with the position of
the source, so that sources of one name have different objects. -/
def objectPath (scratch : Path) (index : Nat) (source : Path) : Path :=
  scratch.join (s!"{index}_" ++ source.fileStem?.getD "source" ++ ".o")

/-- The arguments that compile one source. -/
def compilerArguments (flags : List String) (headers : Path) (job : CompileJob)
    (source object : Path) : List String :=
  flags ++ [source.text, "-o", object.text, "-I", headers.text] ++
    match job.source.parent? with
    | some directory => ["-I", directory.text]
    | none => []

/-- The arguments that link objects. -/
def linkerArguments (objects : List Path) (object : Path) : List String :=
  "-relocatable" :: objects.map (·.text) ++ ["-o", object.text]

/-- Compile sources one after another, from a position on. -/
def compileEach (tool : String) (arguments : Path → Path → List String) (scratch : Path) :
    (index : Nat) → List Path → Action Workshop BuildError (List Path)
  | _, [] => return []
  | index, source :: later => do
      let object := objectPath scratch index source
      Workshop.callTool tool (arguments source object)
      let objects ← compileEach tool arguments scratch (index + 1) later
      return object :: objects

/-- The work of a compilation in its scratch directory. -/
def compileIn (family : ToolchainFamily) (host : Host) (job : CompileJob) (scratch : Path) :
    Action Workshop BuildError Unit := do
  let headers ← Sources.writeHeaders (scratch.join "include")
  let sources ← family.stageSources job scratch
  let toolPrefix := job.options.toolchainPrefix.getD family.toolchainPrefix
  let flags := family.compilerFlags job.options host
  let objects ← compileEach (toolPrefix ++ "gcc") (compilerArguments flags headers job) scratch 0
    sources
  Workshop.callTool (toolPrefix ++ "ld") (linkerArguments objects job.object)

/-- Build an object. The word size and the layout are checked before anything is done. -/
def compile (family : ToolchainFamily) (host : Host) (job : CompileJob) :
    Action Workshop BuildError Unit := do
  Action.ofResult (family.checkWordSize job.options.wordSize)
  Action.ofResult (family.checkLayout job.options.layout)
  Workshop.inTemporary ".tmp" (family.compileIn host job)

/-- The default layout of a family for a word size in bits. -/
def defaultLayout (family : ToolchainFamily) (wordSize : UInt32) :
    Except BuildError MemoryLayout :=
  match family.layout with
  | .sizes entries =>
      .ok (entries.foldl (fun layout (kind, size) => layout.insert kind none size) .empty)
  | .placed base available sections =>
      (MemoryLayout.plan base available (wordSize / 8).toUInt64 sections).mapError fun error =>
        .config (.placement error)

/-- The configuration of a device of a family. Only devices behind a debug server are given
its endpoint. -/
def defaultConfig (family : ToolchainFamily) (host : Host) (endpoint : ServerEndpoint) :
    Except BuildError DeviceConfig := do
  let wordSize := family.wordSize.getD host.wordSize
  let reached := family.method = .openocd
  return {
    deviceId := family.deviceId
    toolchainPrefix := family.toolchainPrefix
    memLayout := ← family.defaultLayout wordSize
    wordSize
    thumbMode := family.thumbMode
    commsMethod := family.method.name
    serverAddr := if reached then endpoint.address else none
    serverPort := if reached then endpoint.port else none }

/-- The backend of a family on a host. -/
def backend (family : ToolchainFamily) (host : Host) : DeviceBackend where
  deviceId := family.deviceId
  compile := family.compile host
  defaultConfig := family.defaultConfig host

/-- The host itself. -/
def host : ToolchainFamily where
  deviceId := "host"
  toolchainPrefix := ""
  flags := []
  sources := []
  runsOnHost := true
  wordSize := none
  thumbMode := false
  method := .host
  layout := .sizes [(.text, 20480), (.rodata, 20480), (.data, 768), (.bss, 768), (.args, 4096),
    (.heap, 262144), (.workspace, 262144), (.stack, 4096)]

/-- Boards with a Cortex-M7. -/
def stm32f746xx : ToolchainFamily where
  deviceId := "arm.stm32f746xx"
  toolchainPrefix := "arm-none-eabi-"
  flags := ["-mcpu=cortex-m7", "-mlittle-endian", "-mfloat-abi=hard", "-mfpu=fpv5-sp-d16",
    thumbFlag, "-gdwarf-5"]
  sources := Sources.cortexSources
  runsOnHost := false
  wordSize := some 32
  thumbMode := true
  method := .openocd
  layout := .placed 0x20000180 320000
    [⟨.text, .bytes 18000⟩, ⟨.rodata, .bytes 100⟩, ⟨.data, .bytes 100⟩, ⟨.bss, .bytes 600⟩,
      ⟨.args, .bytes 4096⟩, ⟨.heap, .weight 100.0⟩, ⟨.workspace, .bytes 64000⟩,
      ⟨.stack, .bytes 32⟩]

/-- The RISC-V simulator. -/
def riscvSpike : ToolchainFamily where
  deviceId := "riscv_spike"
  toolchainPrefix := "riscv64-unknown-elf-"
  flags := ["-mcmodel=medany"]
  sources := Sources.riscvSources
  runsOnHost := false
  wordSize := some 64
  thumbMode := false
  method := .openocd
  layout := .placed 0x80000000 131072
    [⟨.text, .bytes 18000⟩, ⟨.rodata, .bytes 128⟩, ⟨.data, .bytes 128⟩, ⟨.bss, .bytes 2048⟩,
      ⟨.args, .bytes 4096⟩, ⟨.heap, .weight 100.0⟩, ⟨.workspace, .bytes 52000⟩,
      ⟨.stack, .bytes 1024⟩]

/-- The families that are known from the start. -/
def builtins : List ToolchainFamily := [host, stm32f746xx, riscvSpike]

end ToolchainFamily

end MicroDevice
