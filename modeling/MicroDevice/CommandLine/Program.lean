import MicroDevice.CommandLine.Commands

/-! # The program

A command line is read and carried out. The program ends with status zero if it did what it
was asked for, one if that failed, two if the words make no sense, and a hundred and one if it
panicked.
-/

namespace MicroDevice.CommandLine

/-- How the program ends: its status and what it wrote to its two streams. -/
structure ProgramEnd where
  status : Nat
  output : String
  errors : String
  deriving DecidableEq, Repr

/-- The name and version of the program. -/
def versionText : String := "micrort 0.1.0\n"

/-- How the program is used. -/
def usageText : String :=
  String.join (List.map (· ++ "\n") [
    "usage: micrort [-v] <command>",
    "",
    "  device list",
    "  device config [--server-addr <address>] [--server-port <port>] [--format toml|json] <id>",
    "  config validate [--json] <file>",
    "  compile --config <file> --src <file> --out <file> [--lib-type runtime|operator]" ++
      " [--flag <flag>]",
    "  session check --config <file>"])

/-- The end of a program that was not asked for a command. -/
def Refusal.programEnd : Refusal → ProgramEnd
  | misuse => ⟨2, "", usageText⟩
  | help => ⟨0, usageText, ""⟩
  | version => ⟨0, versionText, ""⟩

/-- The message about a registered backend. -/
def registrationLine (deviceId : String) : String :=
  "[DEBUG micrort_compile::registry] registered device backend '" ++ deviceId ++ "'\n"

/-- What a console has to tell beside its output. -/
def Console.messages (console : Console) (verbosity : Nat) : String :=
  if verbosity = 0 then "" else String.join (console.registered.map registrationLine)

/-- The status of a program that came to nothing. -/
def Failure.status : Failure → Nat
  | causes _ => 1
  | panic _ => 101

/-- What a program that came to nothing says of it. The report of a panic also names a place in the
program, which is left out here. -/
def Failure.report : Failure → String
  | causes chain => "error: " ++ ": ".intercalate chain ++ "\n"
  | panic message => "panicked: " ++ message ++ "\n"

/-- Carry out an invocation in a world. -/
def Invocation.perform (invocation : Invocation) (sessionName : String) (world : World) :
    ProgramEnd × World :=
  let (result, console) := (invocation.request.perform sessionName).run ⟨world, "", []⟩
  let messages := console.messages invocation.verbosity
  match result with
  | .ok () => (⟨0, console.output, messages⟩, console.world)
  | .error failure => (⟨failure.status, console.output, messages ++ failure.report⟩, console.world)

/-- Run the program with the words of a command line. A session is shown by the name given. -/
def runProgram (words : List String) (sessionName : String) (world : World) :
    ProgramEnd × World :=
  match Invocation.ofWords words with
  | .error refusal => (refusal.programEnd, world)
  | .ok invocation => invocation.perform sessionName world

end MicroDevice.CommandLine
