import MicroDevice.Object.Field

/-! # String tables

A string table holds texts that end with a zero byte, the last perhaps without. A name is
given by an offset into the table; one that points into a text denotes the rest of it.
-/

namespace MicroDevice.Object

/-- The texts of a string table, each with the offset it begins at. -/
abbrev StringTable := List (Nat × Bytes)

namespace StringTable

/-- The texts of a table that begins at an offset, each without its zero byte. Nothing
follows a zero byte at the end. -/
def divideFrom : (start : Nat) → (text : Bytes) → Bytes → StringTable
  | _, [], [] => []
  | start, text, [] => [(start, text.reverse)]
  | start, text, byte :: later =>
      if byte = 0 then
        (start, text.reverse) :: divideFrom (start + text.length + 1) [] later
      else divideFrom start (byte :: text) later

/-- The string table in a sequence of bytes, if all its texts are UTF-8. -/
def ofBytes? (bytes : Bytes) : Option StringTable :=
  let table := divideFrom 0 [] bytes
  if table.all fun entry => (Text.decode? entry.2).isSome then some table else none

/-- The name at an offset, if one begins there or a text can be cut there. -/
def name? (table : StringTable) (offset : Nat) : Option String :=
  match (table.takeWhile fun entry => entry.1 ≤ offset).getLast? with
  | none => none
  | some (start, text) =>
      if offset - start ≤ text.length then Text.decode? (text.drop (offset - start)) else none

end StringTable

end MicroDevice.Object
