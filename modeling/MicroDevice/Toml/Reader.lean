import MicroDevice.Toml.Value

/-! # Reading TOML

A text is a list of statements: headers of tables, headers of arrays of tables, and
assignments. The statements are carried out one after another on a tree of tables; each
header says where the assignments that follow it go.
-/

namespace MicroDevice.Toml

/-- A statement of a TOML text. -/
inductive Statement where
  | table (key : KeyPath)
  | row (key : KeyPath)
  | assignment (key : KeyPath) (datum : Datum)

/-- The text after the end of a line, before which there may be blanks and a comment. -/
def endLine (text : List Char) : Option (List Char) :=
  let text := dropBlanks text
  let rest := if text.head? = some '#' then text.dropWhile isPlain else text
  if rest = [] then some [] else lineEnd? rest

/-- A header, after its opening brackets, closed by so many brackets. -/
def header (closing : Nat) (text : List Char) : Option (KeyPath × List Char) := do
  let (key, rest) ← keyPath text
  if rest.take closing = List.replicate closing ']' then
    let rest ← endLine (rest.drop closing)
    return (key, rest)
  else none

/-- One statement, up to the end of its line. -/
def statement : List Char → Option (Statement × List Char)
  | '[' :: '[' :: rest => do
      let (key, rest) ← header 2 rest
      return (.row key, rest)
  | '[' :: rest => do
      let (key, rest) ← header 1 rest
      return (.table key, rest)
  | text => do
      let ((key, datum), rest) ← member (value nestingLimit) text
      let rest ← endLine rest
      return (.assignment key datum, rest)

/-- The statements of a text. The fuel bounds the number of lines. -/
def statements : (fuel : Nat) → List Char → Option (List Statement)
  | 0, _ => none
  | fuel + 1, text =>
      match dropBlanks text with
      | [] => some []
      | c :: rest =>
          if c = '#' || c = '\n' || c = '\r' then do
            statements fuel (← endLine (c :: rest))
          else do
            let (first, rest) ← statement (c :: rest)
            let later ← statements fuel rest
            return first :: later

/-- A tree of tables, and the path of the table that assignments go to. -/
structure Builder where
  path : List String
  entries : Entries

namespace Builder

/-- Carry out a statement. -/
def perform (builder : Builder) : Statement → Option Builder
  | .table key => do
      let entries ← changeAt .passage (addTable key.name) key.tables .header builder.entries
      return ⟨key.tables ++ [key.name], entries⟩
  | .row key => do
      let entries ← changeAt .passage (addRow key.name) key.tables .header builder.entries
      return ⟨key.tables ++ [key.name], entries⟩
  | .assignment key datum => do
      let entries ← changeAt .passage (assign key datum) builder.path .header builder.entries
      return { builder with entries }

end Builder

/-- A text without the byte order mark that it may begin with. -/
def dropMark (text : List Char) : List Char :=
  if text.head? = some (Char.ofNat 0xFEFF) then text.drop 1 else text

/-- The datum of a TOML text, if it is well formed. -/
def read (text : String) : Option Datum := do
  let chars := dropMark text.toList
  let steps ← statements (chars.length + 1) chars
  let builder ← steps.foldlM Builder.perform ⟨[], []⟩
  return .mapping (entriesData builder.entries)

end MicroDevice.Toml
