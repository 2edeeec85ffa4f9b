import MicroDevice.Data.Datum

/-! # Reading records

A record is written as a mapping from the names of its fields, or as a sequence of its
fields in the order of their declaration. It is read into a draft, field by field in the
order of the document; what is missing is found last.
-/

namespace MicroDevice

/-- What becomes of the items of a sequence after the last field of a record. -/
inductive Surplus where
  | refused
  | ignored
  deriving DecidableEq, Repr

/-- How a record is read: its fields in the order of their declaration, and the draft that
they are put into. -/
structure RecordReader (Field Draft Result : Type) where
  name : String
  surplus : Surplus
  fields : List Field
  fieldName : Field → String
  /-- Whether a record without the field is refused. -/
  isRequired : Field → Bool
  blank : Draft
  /-- Whether a draft has a field already. -/
  holds : Draft → Field → Bool
  /-- Put the datum of a field into a draft. -/
  put : Draft → Field → Datum → Except ReadFault Draft
  /-- The record of a draft that has every required field. -/
  complete? : Draft → Option Result

namespace RecordReader

variable {Field Draft Result : Type} (reader : RecordReader Field Draft Result)

/-- The field of a name. -/
def field? (name : String) : Option Field :=
  reader.fields.find? fun field => reader.fieldName field == name

/-- Read one entry of a mapping into a draft. An entry of an unknown name is skipped, and a
field may not come twice. -/
def putEntry (draft : Draft) : Key × Datum → Except ReadFault Draft
  | (none, _) => .error .syntactic
  | (some name, value) =>
      match reader.field? name with
      | none => if value.isWhole then .ok draft else .error .syntactic
      | some field =>
          if reader.holds draft field then .error (.data (.duplicateField name))
          else reader.put draft field value

/-- The fault of a draft that is not complete: the first required field that it lacks. -/
def missing (draft : Draft) : ReadFault :=
  match reader.fields.find? fun field => reader.isRequired field && !reader.holds draft field with
  | some field => .data (.missingField (reader.fieldName field))
  | none => .syntactic

/-- The record of the entries of a mapping. -/
def ofEntries (entries : List (Key × Datum)) : Except ReadFault Result := do
  let draft ← entries.foldlM reader.putEntry reader.blank
  match reader.complete? draft with
  | some result => .ok result
  | none => .error (reader.missing draft)

/-- The position of the first required field from a position on. -/
def firstRequired (position : Nat) : Nat :=
  position + (reader.fields.drop position).findIdx reader.isRequired

/-- The record of the items of a sequence. -/
def ofItems (items : List Datum) : Except ReadFault Result := do
  let draft ← (reader.fields.zip items).foldlM
    (fun draft (field, item) => reader.put draft field item) reader.blank
  match reader.complete? draft with
  | some result =>
      if reader.surplus = .refused && reader.fields.length < items.length then .error .syntactic
      else .ok result
  | none =>
      .error (.data (.invalidLength (reader.firstRequired items.length)
        s!"struct {reader.name} with {reader.fields.length} elements"))

/-- The record of a datum. -/
def read : Datum → Except ReadFault Result
  | .mapping entries => reader.ofEntries entries
  | .sequence items => reader.ofItems items
  | other => .error (other.mismatch ("struct " ++ reader.name))

end RecordReader

end MicroDevice
