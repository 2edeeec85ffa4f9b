import MicroDevice.Build.Error
import MicroDevice.Files.Path

/-! # Path arguments

An argument of an export step that names files: one path, or a sequence of paths. Where one
file is needed, a sequence has to hold exactly one path.
-/

namespace MicroDevice

/-- An argument that names files. -/
inductive PathArg where
  | one (path : Path)
  | many (paths : List Path)
  deriving DecidableEq, Repr

/-- The one path of an argument, which messages call by its name. -/
def PathArg.single (argument : PathArg) (name : String) : Except BuildError Path :=
  match argument with
  | one path => .ok path
  | many [path] => .ok path
  | many paths => .error (.argument (.notOneFile name paths.length))

/-- What an export step is asked for: an object, sources, and perhaps more flags. -/
structure ExportRequest where
  object : PathArg
  sources : PathArg
  flags : Option (List String)
  deriving DecidableEq, Repr

end MicroDevice
