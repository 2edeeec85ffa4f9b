import MicroDevice.Data.Fault

/-! # Documents as data

A `Datum` is what a configuration document holds, independent of its format. A document
that is not well formed is represented up to the point where it breaks off: there stands
`malformed`, and nothing follows it. So whoever reads a datum in order meets the faults of
the document in order.
-/

namespace MicroDevice

/-- The key of a mapping entry; `none` when the text at its place denotes no key. -/
abbrev Key := Option String

/-- What a document holds. -/
inductive Datum where
  | null
  | boolean (value : Bool)
  | integer (value : Int)
  /-- A floating-point number, in the text that messages give it. -/
  | float (text : String)
  | string (text : String)
  | sequence (items : List Datum)
  | mapping (entries : List (Key × Datum))
  /-- A well-formed text that denotes no value. It may be skipped and not be read. -/
  | unreadable
  /-- The place where the document is not well formed. -/
  | malformed
  deriving Inhabited

namespace Datum

mutual

/-- Whether a datum may be skipped: no place in it is malformed. -/
def isWhole : Datum → Bool
  | malformed => false
  | sequence items => allWhole items
  | mapping entries => entriesWhole entries
  | _ => true

/-- Whether all items of a sequence may be skipped. -/
def allWhole : List Datum → Bool
  | [] => true
  | item :: later => item.isWhole && allWhole later

/-- Whether all values of a mapping may be skipped. -/
def entriesWhole : List (Key × Datum) → Bool
  | [] => true
  | (_, value) :: later => value.isWhole && entriesWhole later

end

theorem allWhole_iff (items : List Datum) :
    allWhole items = true ↔ ∀ item ∈ items, item.isWhole = true := by
  induction items with
  | nil => exact iff_of_true rfl (List.forall_mem_nil _)
  | cons item later ih => rw [allWhole, Bool.and_eq_true, ih, List.forall_mem_cons]

theorem entriesWhole_iff (entries : List (Key × Datum)) :
    entriesWhole entries = true ↔ ∀ entry ∈ entries, entry.2.isWhole = true := by
  induction entries with
  | nil => exact iff_of_true rfl (List.forall_mem_nil _)
  | cons entry later ih => rw [entriesWhole, Bool.and_eq_true, ih, List.forall_mem_cons]

/-- How a message names a datum that is not what its reader expects. -/
def found : Datum → Except ReadFault Found
  | null => .ok .null
  | boolean value => .ok (.boolean value)
  | integer value => .ok (.integer value)
  | float text => .ok (.float text)
  | string text => .ok (.string text)
  | sequence _ => .ok .sequence
  | mapping _ => .ok .mapping
  | unreadable => .error .syntactic
  | malformed => .error .syntactic

/-- The fault of a datum that has the wrong type. -/
def mismatch (datum : Datum) (expected : String) : ReadFault :=
  match datum.found with
  | .ok found => .data (.invalidType found expected)
  | .error fault => fault

end Datum

/-- A document: its one datum, and whether nothing but blanks follows it. -/
structure Document where
  root : Datum
  ended : Bool

end MicroDevice
