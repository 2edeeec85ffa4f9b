import MicroDevice.Session.Basic

/-! # Consoles

What a command acts on: a world, the lines it has printed, and the backends that were
registered for it. Backends are registered when a command first needs one. A command fails
with a chain of causes, from what was attempted to what went wrong, or it panics.
-/

namespace MicroDevice.CommandLine

/-- What a command acts on. -/
structure Console where
  world : World
  /-- What has been printed. -/
  output : String
  /-- The backends that have been registered, in order. -/
  registered : List String

/-- Why a command came to nothing. -/
inductive Failure where
  /-- It failed, for causes from what was attempted to what went wrong. -/
  | causes (chain : List String)
  /-- It panicked. -/
  | panic (message : String)
  deriving DecidableEq, Repr

/-- A failure in the course of an attempt. A panic is not told what was attempted. -/
def Failure.during (attempt : String) : Failure → Failure
  | causes chain => causes (attempt :: chain)
  | panic message => panic message

/-- The failure of a configuration error. What its message quotes is a cause of its own. -/
def configFailure (error : ConfigError) : Failure :=
  .causes (error.message :: match error with
    | .toml fault => [fault.message]
    | .json fault => [fault.message]
    | .io fault => [fault.message]
    | .tomlOutOfRange => ["out-of-range value for u64 type"]
    | _ => [])

/-- The failure of a build error. -/
def buildFailure (error : BuildError) : Failure :=
  match error with
  | .io fault => .causes [error.message, fault.message]
  | .config error => configFailure error
  | _ => .causes [error.message]

/-- The failure of a session error. -/
def sessionFailure (error : SessionError) : Failure :=
  match error with
  | .io fault => .causes [error.message, fault.message]
  | .build error => buildFailure error
  | .config error => configFailure error
  | .panic message => .panic message
  | _ => .causes [error.message]

namespace Console

variable {Error Answer : Type}

/-- Print a text. -/
def print (text : String) : Action Console Failure Unit :=
  Action.change fun console => { console with output := console.output ++ text }

/-- Print a line. -/
def printLine (line : String) : Action Console Failure Unit :=
  print (line ++ "\n")

/-- Print lines. -/
def printLines (lines : List String) : Action Console Failure Unit :=
  print (String.join (lines.map (· ++ "\n")))

/-- Carry out an action in the world of a console. -/
def inWorld (failure : Error → Failure) (action : Action World Error Answer) :
    Action Console Failure Answer :=
  (action.onPart Console.world fun console world => { console with world }).widen failure

/-- The registry of the program, whose backends are registered by now. -/
def registry : Action Console Failure Registry :=
  fun console =>
    (.ok (Registry.builtins .current),
      { console with registered := ToolchainFamily.builtins.map (·.deviceId) })

end Console

/-- An action whose failures say what was attempted. -/
def attempting {Answer : Type} (attempt : String) (action : Action Console Failure Answer) :
    Action Console Failure Answer :=
  action.widen (Failure.during attempt)

end MicroDevice.CommandLine
