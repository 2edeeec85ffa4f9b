import MicroDevice.Files.Fault
import MicroDevice.Files.Path
import MicroDevice.Text.Utf8

/-! # File trees

A file tree is the state of a file system: which locations hold a directory and which
a file. A path is resolved part by part, and every part but the last has to denote a
directory. The tree knows no links and no permissions.
-/

namespace MicroDevice

/-- A place in a file system: the names that lead to it from the root. -/
abbrev Location := List (List Char)

/-- What a location holds. -/
inductive Entry where
  | directory
  | file (contents : Bytes)
  deriving DecidableEq, Repr

/-- The state of a file system. -/
structure FileTree where
  /-- What each location other than the root holds. -/
  entries : List (Location × Entry)
  /-- Where relative paths begin. -/
  workingDirectory : Location
  /-- The number of temporary directories made so far. -/
  temporaries : Nat
  deriving Repr

namespace FileTree

/-- The directory that holds the temporary directories. -/
def temporaryRoot : Location := ["tmp".toList]

/-- The longest file name, in bytes. -/
def nameLimit : Nat := 255

/-- The longest path, in bytes. -/
def pathLimit : Nat := 4095

/-- The tree with an empty working directory and an empty directory for temporary ones. -/
def fresh : FileTree where
  entries := [(["work".toList], .directory), (temporaryRoot, .directory)]
  workingDirectory := ["work".toList]
  temporaries := 0

/-- What a location holds; the root is a directory. -/
def entry? (tree : FileTree) (location : Location) : Option Entry :=
  if location = [] then some .directory else tree.entries.lookup location

/-- The tree in which a location holds the given entry. -/
def put (tree : FileTree) (location : Location) (entry : Entry) : FileTree :=
  { tree with entries := (location, entry) :: tree.entries.filter fun held => held.1 ≠ location }

/-- The tree without a location and everything below it. -/
def removeTree (tree : FileTree) (location : Location) : FileTree :=
  { tree with entries := tree.entries.filter fun held => !location.isPrefixOf held.1 }

/-- Follow the parts of a path from a location. The location reached may hold nothing. -/
def walk (tree : FileTree) : Location → List (List Char) → Except IoFault Location
  | location, [] => .ok location
  | location, part :: later =>
      match tree.entry? location with
      | none => .error .notFound
      | some (.file _) => .error .notADirectory
      | some .directory =>
          if Path.isTrivial part then tree.walk location later
          else if part = Path.upward then tree.walk location.dropLast later
          else if nameLimit < (String.ofList part).utf8ByteSize then .error .nameTooLong
          else tree.walk (location ++ [part]) later

/-- The location a path denotes. The location may hold nothing. -/
def resolve (tree : FileTree) (path : Path) : Except IoFault Location :=
  if path.text.toList.contains (Char.ofNat 0) then .error .nulInName
  else if path.text = "" then .error .notFound
  else if pathLimit < path.text.utf8ByteSize then .error .nameTooLong
  else tree.walk (if path.isAbsolute then [] else tree.workingDirectory) path.parts

/-- What a path denotes, if it denotes anything. -/
def find? (tree : FileTree) (path : Path) : Option Entry :=
  match tree.resolve path with
  | .ok location => tree.entry? location
  | .error _ => none

/-- Whether a path denotes a file or a directory. -/
def contains (tree : FileTree) (path : Path) : Bool :=
  (tree.find? path).isSome

/-- Whether a path denotes a directory. -/
def isDirectory (tree : FileTree) (path : Path) : Bool :=
  tree.find? path = some .directory

/-- The contents of the file a path denotes. -/
def read (tree : FileTree) (path : Path) : Except IoFault Bytes :=
  match tree.resolve path with
  | .error fault => .error fault
  | .ok location =>
      match tree.entry? location with
      | none => .error .notFound
      | some .directory => .error .isADirectory
      | some (.file contents) => .ok contents

/-- The text of the file a path denotes. -/
def readText (tree : FileTree) (path : Path) : Except IoFault String :=
  match tree.read path with
  | .error fault => .error fault
  | .ok contents =>
      match Text.decode? contents with
      | some text => .ok text
      | none => .error .invalidText

/-- A path without the slashes at its end; the root keeps its slash. -/
def withoutEndSlashes (path : Path) : Path :=
  match path.text.toList.reverse.dropWhile (· = '/') with
  | [] => if path.text = "" then path else ⟨"/"⟩
  | named => ⟨String.ofList named.reverse⟩

/-- Write a file, replacing its contents if it exists. The directory has to exist. -/
def write (tree : FileTree) (path : Path) (contents : Bytes) : Except IoFault FileTree :=
  let bare := withoutEndSlashes path
  if bare = path then
    match tree.resolve path with
    | .error fault => .error fault
    | .ok location =>
        match tree.entry? location with
        | some .directory => .error .isADirectory
        | _ => .ok (tree.put location (.file contents))
  else
    match tree.resolve bare with
    | .error fault => .error fault
    | .ok location =>
        match tree.entry? location with
        | some (.file _) => .error .notADirectory
        | _ => .error .isADirectory

/-- Make one directory, whose parent has to exist. -/
def makeDirectory (tree : FileTree) (path : Path) : Except IoFault FileTree :=
  match tree.resolve (withoutEndSlashes path) with
  | .error fault => .error fault
  | .ok location =>
      match tree.entry? location with
      | some _ => .error .alreadyExists
      | none => .ok (tree.put location .directory)

/-- Make a directory and the directories above it that are missing. The fuel bounds the
number of directories above. -/
def makeDirectoriesWithin : (fuel : Nat) → FileTree → Path → Except IoFault FileTree
  | 0, tree, _ => .ok tree
  | fuel + 1, tree, path =>
      if path.text = "" then .ok tree
      else
        match tree.makeDirectory path with
        | .ok made => .ok made
        | .error .notFound =>
            match path.parent? with
            | none => .error .notFound
            | some parent =>
                match makeDirectoriesWithin fuel tree parent with
                | .error fault => .error fault
                | .ok grown =>
                    match grown.makeDirectory path with
                    | .ok made => .ok made
                    | .error fault => if grown.isDirectory path then .ok grown else .error fault
        | .error fault => if tree.isDirectory path then .ok tree else .error fault

/-- Make a directory and the directories above it that are missing. -/
def makeDirectories (tree : FileTree) (path : Path) : Except IoFault FileTree :=
  makeDirectoriesWithin (path.text.length + 1) tree path

/-- The path of a temporary directory. -/
def temporaryPath (stem : String) (number : Nat) : Path :=
  ⟨"/tmp/" ++ stem ++ toString number⟩

/-- Make a new empty directory for temporary files whose name begins with a given stem. -/
def makeTemporary (tree : FileTree) (stem : String) : Except IoFault (Path × FileTree) :=
  let path := temporaryPath stem tree.temporaries
  let counted := { tree with temporaries := tree.temporaries + 1 }
  (counted.makeDirectory path).map fun made => (path, made)

/-- Remove what a path denotes and everything below it. -/
def removeAll (tree : FileTree) (path : Path) : FileTree :=
  match tree.resolve path with
  | .error _ => tree
  | .ok location => tree.removeTree location

/-- The files below a location: the names that lead to each from there, and its contents. -/
def filesBelow (tree : FileTree) (location : Location) : List (Location × Bytes) :=
  tree.entries.filterMap fun held =>
    match held.2 with
    | .directory => none
    | .file contents =>
        if location.isPrefixOf held.1 then some (held.1.drop location.length, contents) else none

/-- The temporary directories that exist. -/
def temporaryDirectories (tree : FileTree) : List Location :=
  (tree.entries.map (·.1)).filter fun location =>
    temporaryRoot.isPrefixOf location && location.length = temporaryRoot.length + 1

end FileTree

end MicroDevice
