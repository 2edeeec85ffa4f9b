import MicroDevice.Text.Printable

/-! # Writing JSON

A `Tree` is written with one item or member a line, indented by two spaces; an empty
array or object stays on its line. In strings only quotes, backslashes and control
characters are escaped.
-/

namespace MicroDevice.Json

/-- A JSON value to write. -/
inductive Tree where
  | natural (value : Nat)
  | boolean (value : Bool)
  | string (text : String)
  | array (items : List Tree)
  | object (members : List (String × Tree))
  deriving Inhabited

/-- A character as it stands in a string. -/
def escapedChar (c : Char) : List Char :=
  if c = '"' then ['\\', '"']
  else if c = '\\' then ['\\', '\\']
  else if c = '\x08' then ['\\', 'b']
  else if c = '\x0c' then ['\\', 'f']
  else if c = '\n' then ['\\', 'n']
  else if c = '\r' then ['\\', 'r']
  else if c = '\t' then ['\\', 't']
  else if c.toNat < 0x10 then ['\\', 'u', '0', '0', '0', Nat.digitChar c.toNat]
  else if c.toNat < 0x20 then ['\\', 'u', '0', '0', '1', Nat.digitChar (c.toNat - 0x10)]
  else [c]

/-- A string with its quotes. -/
def stringText (text : String) : List Char :=
  '"' :: text.toList.flatMap escapedChar ++ ['"']

/-- A new line at a depth of indentation. -/
def newLine (depth : Nat) : List Char :=
  '\n' :: List.replicate (2 * depth) ' '

mutual

/-- The text of a value inside `depth` containers. -/
def Tree.textAt (depth : Nat) : Tree → List Char
  | .natural value => Nat.toDigits 10 value
  | .boolean value => if value then "true".toList else "false".toList
  | .string text => stringText text
  | .array [] => ['[', ']']
  | .array (item :: later) =>
      '[' :: newLine (depth + 1) ++ item.textAt (depth + 1) ++ itemsText (depth + 1) later ++
        newLine depth ++ [']']
  | .object [] => ['{', '}']
  | .object ((name, value) :: later) =>
      '{' :: newLine (depth + 1) ++ stringText name ++ ':' :: ' ' :: value.textAt (depth + 1) ++
        membersText (depth + 1) later ++ newLine depth ++ ['}']

/-- The text of the items after the first. -/
def itemsText (depth : Nat) : List Tree → List Char
  | [] => []
  | item :: later => ',' :: newLine depth ++ item.textAt depth ++ itemsText depth later

/-- The text of the members after the first. -/
def membersText (depth : Nat) : List (String × Tree) → List Char
  | [] => []
  | (name, value) :: later =>
      ',' :: newLine depth ++ stringText name ++ ':' :: ' ' :: value.textAt depth ++
        membersText depth later

end

/-- The text of a value. -/
def Tree.render (tree : Tree) : String :=
  String.ofList (tree.textAt 0)

end MicroDevice.Json
