/-! # File paths

A path is a text whose parts are divided by slashes. Empty parts and `.` parts are
trivial, except that a relative path may begin with a `.` part. All operations here
look at the text alone; what a path denotes is decided by `FileTree`.
-/

namespace MicroDevice

/-- A file path, as written. -/
structure Path where
  text : String
  deriving DecidableEq, Repr, Inhabited

namespace Path

/-- Where a path begins: at the root, at an explicit `.`, or at its first part. -/
inductive Anchor where
  | root
  | current
  | unmarked
  deriving DecidableEq, Repr

/-- A part that names nothing: empty, or a single dot. -/
def isTrivial (part : List Char) : Bool :=
  part = [] || part = ['.']

/-- The part that names the enclosing directory. -/
def upward : List Char := ['.', '.']

/-- The parts of a path, divided at every slash. -/
def parts (path : Path) : List (List Char) :=
  path.text.toList.splitOn '/'

/-- Whether a path begins at the root. -/
def isAbsolute (path : Path) : Bool :=
  path.text.toList.head? = some '/'

/-- The beginning of a path and the parts that follow it. -/
def anchored (path : Path) : Anchor × List (List Char) :=
  match path.parts with
  | [] :: later => if path.isAbsolute then (.root, later) else (.unmarked, [] :: later)
  | ['.'] :: later => (.current, later)
  | all => (.unmarked, all)

/-- What a path is made of once its trivial parts are left out. -/
inductive Component where
  | root
  /-- The `.` that a relative path begins with. -/
  | current
  | upward
  | normal (name : List Char)
  deriving DecidableEq, Repr

/-- The component that a beginning is, if it is marked. -/
def Anchor.component? : Anchor → Option Component
  | root => some .root
  | current => some .current
  | unmarked => none

/-- The component that a part is, unless it is trivial. -/
def partComponent? (part : List Char) : Option Component :=
  if isTrivial part then none
  else if part = upward then some .upward
  else some (.normal part)

/-- The components of a path, in order. -/
def components (path : Path) : List Component :=
  path.anchored.1.component?.toList ++ path.anchored.2.filterMap partComponent?

/-- A list of parts without the trivial ones at its end. -/
def dropTrivialEnd (parts : List (List Char)) : List (List Char) :=
  (parts.reverse.dropWhile isTrivial).reverse

/-- The text of a beginning and the parts that follow it. -/
def assemble (anchor : Anchor) (parts : List (List Char)) : Path :=
  let body := ['/'].intercalate parts
  match anchor with
  | .root => ⟨String.ofList ('/' :: body)⟩
  | .unmarked => ⟨String.ofList body⟩
  | .current => ⟨String.ofList (if parts = [] then ['.'] else '.' :: '/' :: body)⟩

/-- The path without its last part; the root and the empty path have none. -/
def parent? (path : Path) : Option Path :=
  let (anchor, body) := path.anchored
  match dropTrivialEnd body with
  | [] => if anchor = .current then some ⟨""⟩ else none
  | named => some (assemble anchor (dropTrivialEnd named.dropLast))

/-- The last part of a path that is not trivial, unless that is the upward part. -/
def fileName? (path : Path) : Option String :=
  match (dropTrivialEnd path.anchored.2).getLast? with
  | some part => if part = upward then none else some (String.ofList part)
  | none => none

/-- A file name divided at its last dot; a name whose only dot comes first is not divided. -/
def divideName (name : String) : List Char × Option (List Char) :=
  match (name.toList.splitOn '.').reverse with
  | extension :: first :: earlier =>
      let stem := ['.'].intercalate (first :: earlier).reverse
      if stem = [] then (name.toList, none) else (stem, some extension)
  | _ => (name.toList, none)

/-- The file name up to its last dot. -/
def fileStem? (path : Path) : Option String :=
  path.fileName?.map fun name => String.ofList (divideName name).1

/-- What follows the last dot of the file name. -/
def extension? (path : Path) : Option String :=
  path.fileName?.bind fun name => (divideName name).2.map String.ofList

/-- A path below another one; an absolute path stands for itself. -/
def join (directory : Path) (name : String) : Path :=
  match name.toList.head?, directory.text.toList.getLast? with
  | some '/', _ => ⟨name⟩
  | _, none => ⟨name⟩
  | _, some '/' => ⟨directory.text ++ name⟩
  | _, some _ => ⟨directory.text ++ "/" ++ name⟩

end Path

end MicroDevice
