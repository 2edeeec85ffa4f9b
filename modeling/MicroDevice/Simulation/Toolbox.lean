import MicroDevice.Build.Workshop

/-! # Scripted tools

A toolbox with tools that need no toolchain. A compiler marks its source and copies it to
its output, and a linker joins its inputs. A tool may fail at one of its calls.
-/

namespace MicroDevice.Simulation

/-- A tool of a scripted toolbox. -/
structure ScriptedTool where
  name : String
  /-- The number of the call that fails, counted from one. -/
  failsAt : Option Nat
  /-- What the failing call writes to its error stream. -/
  stderr : Bytes
  /-- The status of the failing call. -/
  status : Nat
  /-- What the tool writes as its output, in place of what it makes of its inputs. -/
  emits : Option Bytes

namespace ScriptedTool

/-- The end of a call that fails with a message. -/
def refuse (message : String) (files : FileTree) : ToolEnd × FileTree :=
  (.exited 1 (Text.encode message), files)

/-- Write the output of a call. -/
def deliver (output : String) (contents : Bytes) (files : FileTree) : ToolEnd × FileTree :=
  match files.write ⟨output⟩ contents with
  | .ok written => (.exited 0 [], written)
  | .error _ => refuse "cannot write output" files

/-- The object of a source: a mark with its file name, and its contents. -/
def objectOf (source : Path) (contents : Bytes) : Bytes :=
  Text.encode ("<obj " ++ source.fileName?.getD "" ++ ">") ++ contents

/-- The library of files: a mark, and their contents one after another. -/
def libraryOf? (files : FileTree) (inputs : List String) : Option Bytes := do
  let contents ← inputs.mapM fun input => (files.read ⟨input⟩).toOption
  return Text.encode "<lib>" ++ contents.flatten

/-- Whether a name is that of a compiler. -/
def isCompiler (name : String) : Bool :=
  "gcc".toList.isSuffixOf name.toList

/-- What a call does that does not fail by its number. The output is named after the last
`-o`. -/
def work (tool : ScriptedTool) (arguments : List String) (files : FileTree) :
    ToolEnd × FileTree :=
  let after := arguments.reverse.takeWhile (· ≠ "-o")
  let before := arguments.take (arguments.length - after.length - 1)
  match after.getLast? with
  | none => refuse "no -o" files
  | some output =>
      if after.length = arguments.length then refuse "no -o" files
      else if isCompiler tool.name then
        let source : Path := ⟨before.getLast?.getD ""⟩
        match files.read source with
        | .ok contents => deliver output (objectOf source contents) files
        | .error _ => refuse ("no input " ++ source.text) files
      else
        match tool.emits with
        | some contents => deliver output contents files
        | none =>
            match libraryOf? files (before.drop 1) with
            | some contents => deliver output contents files
            | none => refuse "no object" files

/-- How a tool answers a call, given the number of its calls before. -/
def respond (tool : ScriptedTool) (earlier : Nat) (arguments : List String) (files : FileTree) :
    ToolEnd × FileTree :=
  if tool.failsAt = some (earlier + 1) then (.exited (tool.status % 256) tool.stderr, files)
  else tool.work arguments files

end ScriptedTool

/-- Why a tool that is not in the toolbox does not start. A name with a slash is a path, and
files are not executable. -/
def notStarted (name : String) (files : FileTree) : IoFault :=
  if name.toList.contains '/' then
    match files.resolve ⟨name⟩ with
    | .error fault => fault
    | .ok location => if (files.entry? location).isSome then .permissionDenied else .notFound
  else if FileTree.nameLimit < name.utf8ByteSize then .nameTooLong
  else .notFound

/-- The toolbox of scripted tools. -/
def toolbox (tools : List ScriptedTool) : Toolbox := fun earlier call files =>
  match tools.find? fun tool => tool.name == call.tool && !call.tool.toList.contains '/' with
  | some tool =>
      tool.respond (earlier.countP fun former => former.tool == call.tool) call.arguments files
  | none => (.notStarted (notStarted call.tool files), files)

end MicroDevice.Simulation
