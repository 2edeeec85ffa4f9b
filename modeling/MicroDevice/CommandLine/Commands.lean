import MicroDevice.CommandLine.Console
import MicroDevice.CommandLine.Request
import MicroDevice.Config.Text
import MicroDevice.Config.Validation

/-! # Commands

What the program does for each request.
-/

namespace MicroDevice

/-- Everything wrong with a configuration for the devices of a registry. -/
def Registry.issues (registry : Registry) (config : DeviceConfig) : List Issue :=
  config.issues ++
    if config.deviceId ≠ "" ∧ registry.find? config.deviceId = none then
      [⟨.error, (BuildError.unknownDevice config.deviceId).message⟩]
    else []

namespace CommandLine

/-- List the devices that are known. -/
def listDevices : Action Console Failure Unit := do
  let registry ← Console.registry
  Console.printLines (["Registered devices:", ""] ++ registry.ids.map ("  " ++ ·) ++
    ["", "Use 'micrort device config <id>' for a default configuration."])

/-- Print the configuration that a device has by default. -/
def showConfig (deviceId : String) (endpoint : ServerEndpoint) (format : ConfigFormat) :
    Action Console Failure Unit := do
  let registry ← Console.registry
  let backend ← attempting "use 'micrort device list' to see registered devices"
    ((Action.ofResult (registry.get deviceId)).widen buildFailure)
  let config ← attempting ("generating default config for '" ++ deviceId ++ "'")
    ((Action.ofResult (backend.defaultConfig endpoint)).widen buildFailure)
  match format with
  | .toml => do
      let text ← (Action.ofResult config.toToml).widen configFailure
      Console.print text
  | .json => Console.printLine config.toJson

/-- Load the configuration in a file. -/
def loadConfig (file : Path) : Action Console Failure DeviceConfig :=
  attempting ("loading " ++ file.text)
    (Console.inWorld configFailure (World.look fun files => DeviceConfig.load files file))

/-- The issues of a configuration as they are reported in JSON. -/
def issuesReport (file : Path) (isValid : Bool) (issues : List Issue) : Json.Tree :=
  .object [
    ("file", .string file.text),
    ("issues", .array (issues.map fun issue => .object [
      ("message", .string issue.message), ("severity", .string issue.severity.name)])),
    ("valid", .boolean isValid)]

/-- Report everything wrong with the configuration in a file. Errors make the command fail,
warnings do not. -/
def validate (file : Path) (asJson : Bool) : Action Console Failure Unit := do
  let config ← loadConfig file
  let issues ← if config.deviceId = "" then pure config.issues
    else (fun registry => registry.issues config) <$> Console.registry
  let errors := issues.countP fun issue => issue.severity = .error
  if asJson then
    Console.printLine (issuesReport file (errors == 0) issues).render
  else
    Console.printLines ((issues.map fun issue => issue.severity.name ++ ": " ++ issue.message) ++
      if errors = 0 then [file.text ++ ": ok"] else [])
  if errors = 0 then return ()
  else Action.fail (.causes [file.text ++ s!": {errors} error(s)"])

/-- Build a library for the device of a configuration. -/
def compile (configFile : Path) (libType : LibType) (source object : Path)
    (flags : List String) : Action Console Failure Unit := do
  let config ← loadConfig configFile
  let registry ← Console.registry
  let compiler ← (Action.ofResult (CrossCompiler.make registry config libType)).widen buildFailure
  let request : ExportRequest :=
    ⟨.one object, .one source, if flags = [] then none else some flags⟩
  let artifact ← attempting ("compiling " ++ source.text ++ " for '" ++ config.deviceId ++ "'")
    (Console.inWorld buildFailure (compiler.compileArtifact request))
  Console.printLine (libType.name ++ " library for '" ++ config.deviceId ++ "': " ++ artifact.text)

/-- The line that tells the phase of a session. -/
def stateLine (state : String) : String :=
  "  state:     " ++ state

/-- Enter and exit a session, telling its phase in there, and close it. -/
def visitSession (session : Session DeviceChannel) : Action Console Failure Unit :=
  fun console =>
    let look (live : Live DeviceChannel) := ((live.session.phase, Ending.returned), live)
    let ((inside, ending), live) := Live.within look ⟨session, console.world⟩
    let told := { console with
      output := console.output ++ String.join (inside.toList.map fun (phase : Phase) =>
        stateLine phase.name ++ "\n") }
    match ending with
    | .returned =>
        let (result, world) := live.close
        (do
          Console.printLine (stateLine live.session.phase.name)
          attempting "closing session" ((Action.ofResult result).widen sessionFailure)
          Console.printLine (stateLine "closed") : Action Console Failure Unit).run
          { told with world }
    | .failed error => (.error (sessionFailure error), { told with world := live.drop })
    | .unwound message => (.error (.panic message), { told with world := live.drop })

/-- Build a session for a configuration, enter and exit it, and close it. -/
def checkSession (sessionName : String) (configFile : Path) : Action Console Failure Unit := do
  let config ← loadConfig configFile
  let registry ← Console.registry
  let session ← attempting ("opening session for '" ++ config.deviceId ++ "'")
    (Console.inWorld sessionFailure (Session.build ⟨registry, .current, openDevice⟩ config))
  Console.printLines [
    "session " ++ sessionName ++ " for '" ++ session.config.deviceId ++ "'",
    "  runtime:   " ++ session.runtime.text,
    "  transport: " ++ session.transport.method.name,
    stateLine session.phase.name]
  visitSession session

/-- Carry out a request. -/
def Request.perform (request : Request) (sessionName : String) : Action Console Failure Unit :=
  match request with
  | listDevices => CommandLine.listDevices
  | showConfig deviceId endpoint format => CommandLine.showConfig deviceId endpoint format
  | validate file asJson => CommandLine.validate file asJson
  | compile config libType source object flags =>
      CommandLine.compile config libType source object flags
  | checkSession config => CommandLine.checkSession sessionName config

end CommandLine

end MicroDevice
