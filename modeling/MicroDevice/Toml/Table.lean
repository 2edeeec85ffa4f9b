import MicroDevice.Data.Datum

/-! # TOML tables

The rules by which headers and dotted keys build up a tree of tables. Each table knows how
it came to be, since that decides what may still be added to it: a table may have one
header, a table that dotted keys made has none, and dotted keys do not reach into a table
that has a header.
-/

namespace MicroDevice.Toml

/-- How a table came to be. -/
inductive Origin where
  /-- By a header of its own, or as the root. -/
  | header
  /-- On the way to the table of a longer header. -/
  | passage
  /-- By a dotted key. -/
  | dotted
  deriving DecidableEq, Repr

/-- What a name in a table stands for. -/
inductive Item where
  | value (datum : Datum)
  | table (origin : Origin) (entries : List (String × Item))
  /-- An array of tables, which always has a newest one. -/
  | rows (newest : List (String × Item)) (older : List (List (String × Item)))
  deriving Inhabited

/-- The contents of a table, in order. -/
abbrev Entries := List (String × Item)

namespace Entries

/-- The contents with the item of a name replaced in its place. -/
def replace (entries : Entries) (name : String) (item : Item) : Entries :=
  entries.map fun entry => if entry.1 = name then (name, item) else entry

/-- The contents without a name. -/
def erase (entries : Entries) (name : String) : Entries :=
  entries.filter fun entry => entry.1 ≠ name

/-- The contents with one more item at the end. -/
def append (entries : Entries) (name : String) (item : Item) : Entries :=
  entries ++ [(name, item)]

end Entries

/-- A key: the names of the tables that lead to it, and its own name. -/
structure KeyPath where
  tables : List String
  name : String
  deriving DecidableEq, Repr

/-- Change the table at the end of a path. Tables that are missing on the way are made; into
an array of tables the way leads through its newest one. -/
def changeAt (made : Origin) (change : Origin → Entries → Option Entries) :
    (path : List String) → Origin → Entries → Option Entries
  | [], origin, entries => change origin entries
  | name :: later, _, entries =>
      match entries.lookup name with
      | none => do
          let inner ← changeAt made change later made []
          return Entries.append entries name (.table made inner)
      | some (.value _) => none
      | some (.table origin inner) =>
          if made = .dotted && origin = .header then none
          else do
            let changed ← changeAt made change later origin inner
            return Entries.replace entries name (.table origin changed)
      | some (.rows newest older) => do
          let changed ← changeAt made change later .header newest
          return Entries.replace entries name (.rows changed older)

/-- Add a value to a table. A dotted key adds only to tables of dotted keys, and a plain key
only to the others; no name comes twice. -/
def addValue (isDotted : Bool) (name : String) (datum : Datum) (origin : Origin)
    (entries : Entries) : Option Entries :=
  if (origin = .dotted) ≠ isDotted then none
  else if (entries.lookup name).isSome then none
  else some (Entries.append entries name (.value datum))

/-- Set a key of a table to a value. -/
def assign (key : KeyPath) (datum : Datum) (origin : Origin) (entries : Entries) : Option Entries :=
  changeAt .dotted (addValue (!key.tables.isEmpty) key.name datum) key.tables origin entries

/-- Give a table its header. A table that only led to others so far moves to the end of its
parent. -/
def addTable (name : String) (_ : Origin) (entries : Entries) : Option Entries :=
  match entries.lookup name with
  | none => some (Entries.append entries name (.table .header []))
  | some (.table .passage inner) =>
      some (Entries.append (Entries.erase entries name) name (.table .header inner))
  | some _ => none

/-- Add a table to an array of tables. -/
def addRow (name : String) (_ : Origin) (entries : Entries) : Option Entries :=
  match entries.lookup name with
  | none => some (Entries.append entries name (.rows [] []))
  | some (.rows newest older) => some (Entries.replace entries name (.rows [] (newest :: older)))
  | some _ => none

mutual

/-- What a reader meets for an item. -/
def Item.datum : Item → Datum
  | .value datum => datum
  | .table _ entries => .mapping (entriesData entries)
  | .rows newest older => .sequence (rowsData older [.mapping (entriesData newest)])

/-- What a reader meets for the contents of a table. -/
def entriesData : List (String × Item) → List (Key × Datum)
  | [] => []
  | (name, item) :: later => (some name, item.datum) :: entriesData later

/-- What a reader meets for tables given newest first, before those that follow them. -/
def rowsData : List (List (String × Item)) → List Datum → List Datum
  | [], following => following
  | row :: older, following => rowsData older (.mapping (entriesData row) :: following)

end

/-- The tree of a list of assignments to an empty table, as an inline table has them. -/
def inlineTable? (assignments : List (KeyPath × Datum)) : Option Datum := do
  let entries ← assignments.foldlM
    (fun entries (key, datum) => assign key datum .header entries) ([] : Entries)
  return .mapping (entriesData entries)

end MicroDevice.Toml
