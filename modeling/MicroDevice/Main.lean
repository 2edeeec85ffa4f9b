import MicroDevice.CommandLine.Program

/-! # The executable

Reads the files that a command line names, runs the program, and writes what it printed and
the files it made. Compilers, linkers and debug servers are not within its reach: it finds
none of them.
-/

namespace MicroDevice.CommandLine

/-- The files that a request reads. -/
def Request.inputs : Request → List Path
  | listDevices => []
  | showConfig _ _ _ => []
  | validate file _ => [file]
  | compile config _ source _ _ => [config, source]
  | checkSession config => [config]

/-- The files that a command line reads. -/
def inputsOf (words : List String) : List Path :=
  match Invocation.ofWords words with
  | .ok invocation => invocation.request.inputs
  | .error _ => []

/-- The tree with one more file, if there is a place for it. -/
def withFile (files : FileTree) (path : Path) (contents : Bytes) : FileTree :=
  let grown := match path.parent? with
    | some parent => (files.makeDirectories parent).toOption.getD files
    | none => files
  (grown.write path contents).toOption.getD grown

/-- The tree with one more directory, if there is a place for it. -/
def withDirectory (files : FileTree) (path : Path) : FileTree :=
  (files.makeDirectories path).toOption.getD files

/-- The toolbox without tools. -/
def noTools : Toolbox := fun _ _ files => (.notStarted .notFound, files)

/-- The world with the given files and nothing else. -/
def bareWorld (files : FileTree) : World :=
  ⟨⟨files, noTools, []⟩, ⟨none, []⟩, []⟩

/-- The text of the name of a session: sixteen bytes as a random UUID. -/
def sessionNameOf (bytes : Bytes) : String :=
  let marked := bytes.mapIdx fun index byte =>
    if index = 6 then byte % 16 + 0x40 else if index = 8 then byte % 64 + 0x80 else byte
  let digits := marked.flatMap Sha256.hexByte
  "-".intercalate (([(0, 8), (8, 4), (12, 4), (16, 4), (20, 12)] : List (Nat × Nat)).map
    fun (start, length) => String.ofList ((digits.drop start).take length))

/-- Take in the file or the directory of a path, if there is one. -/
def takeIn (files : FileTree) (path : Path) : IO FileTree := do
  try
    let contents ← IO.FS.readBinFile path.text
    return withFile files path contents.toList
  catch
    | .inappropriateType .. => return withDirectory files path
    | _ => return files

/-- Write the files that are in one tree and not the same in another. -/
def putOut (before after : FileTree) : IO Unit := do
  let known := before.filesBelow before.workingDirectory
  for (names, contents) in after.filesBelow after.workingDirectory do
    if !known.contains (names, contents) then
      IO.FS.writeBinFile ("/".intercalate (names.map String.ofList))
        (ByteArray.mk contents.toArray)

/-- Run the program on the files that its command line names. -/
def start (words : List String) : IO UInt32 := do
  let files ← (inputsOf words).foldlM takeIn FileTree.fresh
  let name := sessionNameOf (← IO.getRandomBytes 16).toList
  let (ended, last) := runProgram words name (bareWorld files)
  putOut files last.files
  IO.print ended.output
  IO.eprint ended.errors
  return UInt32.ofNat ended.status

end MicroDevice.CommandLine

/-- The program. -/
def main (words : List String) : IO UInt32 :=
  MicroDevice.CommandLine.start words
