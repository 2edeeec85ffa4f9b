import MicroDevice.Text.Printable

/-! # Faults of a document

A document is faulty when it is not well formed, or when it is well formed and holds
something else than its reader expects.
-/

namespace MicroDevice

/-- What a document holds in a place where something else is expected. -/
inductive Found where
  | null
  | boolean (value : Bool)
  | integer (value : Int)
  | float (text : String)
  | string (text : String)
  | sequence
  | mapping
  deriving DecidableEq, Repr

/-- How a message names what was found. -/
def Found.message : Found → String
  | null => "null"
  | boolean value => s!"boolean `{value}`"
  | integer value => s!"integer `{value}`"
  | float text => s!"floating point `{text}`"
  | string text => "string " ++ Text.quoted text
  | sequence => "sequence"
  | mapping => "map"

/-- How a well-formed document fails to be what its reader expects. -/
inductive DataFault where
  | invalidType (found : Found) (expected : String)
  | invalidValue (found : Found) (expected : String)
  | invalidLength (length : Nat) (expected : String)
  | missingField (name : String)
  | duplicateField (name : String)
  | unknownRegion (name : String)
  deriving DecidableEq, Repr

/-- The message for a region name that is none of the eight. -/
def unknownRegionMessage (name : String) : String :=
  "invalid config field 'mem_layout': unknown memory region '" ++ name ++ "'"

/-- The message of a data fault, without a position. -/
def DataFault.message : DataFault → String
  | invalidType found expected => "invalid type: " ++ found.message ++ ", expected " ++ expected
  | invalidValue found expected => "invalid value: " ++ found.message ++ ", expected " ++ expected
  | invalidLength length expected => s!"invalid length {length}, expected " ++ expected
  | missingField name => "missing field `" ++ name ++ "`"
  | duplicateField name => "duplicate field `" ++ name ++ "`"
  | unknownRegion name => unknownRegionMessage name

/-- Why a document could not be read. -/
inductive ReadFault where
  | syntactic
  | data (fault : DataFault)
  deriving DecidableEq, Repr

/-- The message of a reading fault. -/
def ReadFault.message : ReadFault → String
  | syntactic => "the document is not well formed"
  | data fault => fault.message

end MicroDevice
