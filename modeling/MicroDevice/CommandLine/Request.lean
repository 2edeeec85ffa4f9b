import MicroDevice.Build.Backend
import MicroDevice.CommandLine.Reading

/-! # Requests

What a command line asks the program to do.
-/

namespace MicroDevice.CommandLine

/-- The formats of configurations. -/
inductive ConfigFormat where
  | toml
  | json
  deriving DecidableEq, Repr

/-- What the program is asked to do. -/
inductive Request where
  | listDevices
  | showConfig (deviceId : String) (endpoint : ServerEndpoint) (format : ConfigFormat)
  | validate (file : Path) (asJson : Bool)
  | compile (config : Path) (libType : LibType) (source object : Path) (flags : List String)
  | checkSession (config : Path)
  deriving DecidableEq

/-- A request, and how much is to be told about carrying it out. -/
structure Invocation where
  request : Request
  verbosity : Nat
  deriving DecidableEq

/-- The format of a name. -/
def ConfigFormat.ofName? (name : String) : Option ConfigFormat :=
  if name = "toml" then some .toml else if name = "json" then some .json else none

/-- The library type of a name. -/
def libTypeOfName? (name : String) : Option LibType :=
  [LibType.runtime, LibType.operator].find? fun libType => libType.name == name

/-- The path of a word. The empty word is none. -/
def pathOf? (word : String) : Option Path :=
  if word = "" then none else some ⟨word⟩

/-- The number of a text of decimal digits. -/
def digitsValue? (digits : List Char) : Option Nat :=
  if digits ≠ [] ∧ digits.all Char.isDigit then
    some (digits.foldl (fun value digit => 10 * value + (digit.toNat - '0'.toNat)) 0)
  else none

/-- The port of a text: a number that may have a sign. -/
def portOf? (word : String) : Option UInt16 :=
  let number := match word.toList with
    | '+' :: digits => digitsValue? digits
    | '-' :: digits => (digitsValue? digits).filter (· = 0)
    | digits => digitsValue? digits
  (number.filter (· < UInt16.size)).map UInt16.ofNat

/-- The option for more messages, which every command takes. -/
def verboseOption : OptionForm := ⟨"verbose", some 'v', .tally⟩

/-- The options that may stand at every place. -/
def everywhere : List OptionForm := [verboseOption, ⟨"help", some 'h', .question .help⟩]

/-- The option for a path. -/
def pathOption (name : String) : OptionForm :=
  ⟨name, none, .single fun word => (pathOf? word).isSome⟩

/-- The commands about devices. -/
def deviceForm : Form :=
  .group everywhere [
    ("list", .command everywhere []),
    ("config", .command (everywhere ++ [
        ⟨"server-addr", none, .single fun _ => true⟩,
        ⟨"server-port", none, .single fun word => (portOf? word).isSome⟩,
        ⟨"format", none, .single fun word => (ConfigFormat.ofName? word).isSome⟩])
      [fun _ => true])]

/-- The commands about configurations. -/
def configForm : Form :=
  .group everywhere [
    ("validate", .command (everywhere ++ [⟨"json", none, .mark⟩])
      [fun word => (pathOf? word).isSome])]

/-- The command that builds a library. -/
def compileForm : Form :=
  .command (everywhere ++ [
    pathOption "config",
    ⟨"lib-type", none, .single fun word => (libTypeOfName? word).isSome⟩,
    pathOption "src",
    pathOption "out",
    ⟨"flag", none, .repeated⟩]) []

/-- The commands about sessions. -/
def sessionForm : Form :=
  .group everywhere [("check", .command (everywhere ++ [pathOption "config"]) [])]

/-- The form of all command lines. -/
def programForm : Form :=
  .group (everywhere ++ [⟨"version", some 'V', .question .version⟩]) [
    ("device", deviceForm),
    ("config", configForm),
    ("compile", compileForm),
    ("session", sessionForm)]

namespace Reading

/-- The path that an option has to give. -/
def path? (reading : Reading) (name : String) : Option Path :=
  (reading.value? name).bind pathOf?

/-- The request of a command line, unless something is missing. -/
def request? (reading : Reading) : Option Request :=
  match reading.commands, reading.operands with
  | ["device", "list"], [] => some .listDevices
  | ["device", "config"], [deviceId] =>
      let port := (reading.value? "server-port").bind portOf?
      let format := (reading.value? "format").bind ConfigFormat.ofName?
      some (.showConfig deviceId ⟨reading.value? "server-addr", port⟩ (format.getD .toml))
  | ["config", "validate"], [file] => do
      return .validate (← pathOf? file) (reading.has "json")
  | ["compile"], [] => do
      let libType := (reading.value? "lib-type").bind libTypeOfName?
      return .compile (← reading.path? "config") (libType.getD .operator)
        (← reading.path? "src") (← reading.path? "out") (reading.values "flag")
  | ["session", "check"], [] => do
      return .checkSession (← reading.path? "config")
  | _, _ => none

end Reading

/-- The invocation that the words of a command line stand for. -/
def Invocation.ofWords (words : List String) : Except Refusal Invocation :=
  match Reading.read programForm .empty words with
  | .error refusal => .error refusal
  | .ok reading =>
      match reading.request? with
      | some request => .ok ⟨request, (reading.values verboseOption.name).length⟩
      | none => .error .misuse

end MicroDevice.CommandLine
