import MicroDevice.Action
import MicroDevice.Build.Error
import MicroDevice.Files.FileTree

/-! # Workshops

A workshop is where backends build: a file tree and a toolbox. What a tool does is up to
the toolbox, which is asked with all calls made before; nothing is assumed of its answer.
-/

namespace MicroDevice

/-- A call of a tool with its arguments. -/
structure ToolCall where
  tool : String
  arguments : List String
  deriving DecidableEq, Repr

/-- How a call of a tool ends. -/
inductive ToolEnd where
  | notStarted (fault : IoFault)
  | exited (status : Nat) (stderr : Bytes)
  deriving DecidableEq, Repr

/-- What tools do: the end of a call and the file tree it leaves, given the calls that ran
before. -/
abbrev Toolbox := (earlier : List ToolCall) → ToolCall → FileTree → ToolEnd × FileTree

/-- A place to build in. -/
structure Workshop where
  files : FileTree
  toolbox : Toolbox
  /-- The calls of tools that ran, in order. -/
  calls : List ToolCall

namespace Workshop

/-- Look at the files. -/
def look {Answer : Type} (view : FileTree → Except IoFault Answer) :
    Action Workshop BuildError Answer :=
  fun workshop => ((view workshop.files).mapError .io, workshop)

/-- Change the files. -/
def alter (change : FileTree → Except IoFault FileTree) : Action Workshop IoFault Unit :=
  fun workshop =>
    match change workshop.files with
    | .ok files => (.ok (), { workshop with files })
    | .error fault => (.error fault, workshop)

/-- Put contents into a file. -/
def put (path : Path) (contents : Bytes) : Action Workshop IoFault Unit :=
  alter fun files => files.write path contents

/-- Write a file as a part of a build. -/
def write (path : Path) (contents : Bytes) : Action Workshop BuildError Unit :=
  (put path contents).widen .io

/-- Make a directory and those above it. -/
def makeDirectories (path : Path) : Action Workshop BuildError Unit :=
  (alter fun files => files.makeDirectories path).widen .io

/-- Remove what a path denotes. -/
def removeAll (path : Path) (workshop : Workshop) : Workshop :=
  { workshop with files := workshop.files.removeAll path }

/-- Make a temporary directory. -/
def makeTemporary (stem : String) : Action Workshop IoFault Path :=
  fun workshop =>
    match workshop.files.makeTemporary stem with
    | .ok (path, files) => (.ok path, { workshop with files })
    | .error fault => (.error fault, workshop)

/-- Work in a temporary directory that is removed in the end. -/
def inTemporary {Answer : Type} (stem : String)
    (work : Path → Action Workshop BuildError Answer) : Action Workshop BuildError Answer := do
  let directory ← (makeTemporary stem).widen .io
  (work directory).thenAlways (removeAll directory)

/-- Whether a word can be passed to a tool. -/
def isPassable (word : String) : Bool :=
  !word.toList.contains (Char.ofNat 0)

/-- Call a tool, which has to end with status zero. -/
def callTool (tool : String) (arguments : List String) : Action Workshop BuildError Unit :=
  fun workshop =>
    if (tool :: arguments).all isPassable then
      let call : ToolCall := ⟨tool, arguments⟩
      match workshop.toolbox workshop.calls call workshop.files with
      | (.notStarted fault, files) =>
          (.error (.tool tool (.notStarted fault)), { workshop with files })
      | (.exited status stderr, files) =>
          let later := { workshop with files, calls := workshop.calls ++ [call] }
          if status = 0 then (.ok (), later)
          else (.error (.tool tool (.exited status stderr)), later)
    else (.error (.tool tool .nulInCommand), workshop)

end Workshop

end MicroDevice
