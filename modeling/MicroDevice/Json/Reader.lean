import MicroDevice.Json.Token

/-! # Reading JSON

Tokens are put together into a datum in one pass, with the open arrays and objects on a
stack. At the first token out of place the open containers are closed around a malformed
place, so the datum holds all that stands before it.
-/

namespace MicroDevice.Json

/-- An open container, with its finished contents in reverse. -/
inductive Frame where
  | sequence (items : List Datum)
  /-- An object whose last key waits for its value. -/
  | mapping (entries : List (Key × Datum)) (key : Key)

/-- What may come next. -/
inductive Focus where
  /-- A value, as at the beginning, after a colon, and after a comma in an array. -/
  | value
  /-- A value or the end of an array. -/
  | firstItem
  /-- A key, as after a comma in an object whose entries are given in reverse. -/
  | key (entries : List (Key × Datum))
  /-- A key or the end of an object. -/
  | firstKey
  /-- The colon after a key. -/
  | colon (entries : List (Key × Datum)) (key : Key)
  /-- What may follow a value: a comma, the end of its container, or the end of the text. -/
  | after (value : Datum)

/-- Close all open containers around a last value. -/
def enclose : List Frame → Datum → Datum
  | [], value => value
  | .sequence items :: outer, value => enclose outer (.sequence (value :: items).reverse)
  | .mapping entries key :: outer, value =>
      enclose outer (.mapping ((key, value) :: entries).reverse)

/-- The entry at a place of an object that is malformed. -/
def malformedEntry : Key × Datum := (none, .malformed)

/-- The document that is malformed at the place reached. -/
def breakOff : Focus → List Frame → Document
  | .value, frames | .firstItem, frames => ⟨enclose frames .malformed, true⟩
  | .key entries, frames => ⟨enclose frames (.mapping (malformedEntry :: entries).reverse), true⟩
  | .firstKey, frames => ⟨enclose frames (.mapping [malformedEntry]), true⟩
  | .colon entries key, frames =>
      ⟨enclose frames (.mapping ((key, .malformed) :: entries).reverse), true⟩
  | .after value, [] => ⟨value, false⟩
  | .after value, .sequence items :: outer =>
      ⟨enclose outer (.sequence (.malformed :: value :: items).reverse), true⟩
  | .after value, .mapping entries key :: outer =>
      ⟨enclose outer (.mapping (malformedEntry :: (key, value) :: entries).reverse), true⟩

/-- The datum of a token that is a whole value. -/
def Token.scalar? : Token → Option Datum
  | .null => some .null
  | .boolean value => some (.boolean value)
  | .numeral written => some written.datum
  | .string pieces =>
      match Piece.text? pieces with
      | some text => some (.string text)
      | none => some .unreadable
  | _ => none

/-- The step of a token where a value may begin. -/
def beginValue (frames : List Frame) : Token → Option (Focus × List Frame)
  | .openBracket => some (.firstItem, .sequence [] :: frames)
  | .openBrace => some (.firstKey, frames)
  | token => token.scalar?.map fun value => (.after value, frames)

/-- The step of a token where a key may begin. -/
def beginKey (entries : List (Key × Datum)) (frames : List Frame) :
    Token → Option (Focus × List Frame)
  | .string pieces => some (.colon entries (Piece.text? pieces), frames)
  | _ => none

/-- The step of one token, unless it is out of place. -/
def advance : Focus → List Frame → Token → Option (Focus × List Frame)
  | .value, frames, token => beginValue frames token
  | .firstItem, .sequence items :: outer, .closeBracket =>
      some (.after (.sequence items.reverse), outer)
  | .firstItem, frames, token => beginValue frames token
  | .key entries, frames, token => beginKey entries frames token
  | .firstKey, frames, .closeBrace => some (.after (.mapping []), frames)
  | .firstKey, frames, token => beginKey [] frames token
  | .colon entries key, frames, .colon => some (.value, .mapping entries key :: frames)
  | .colon _ _, _, _ => none
  | .after value, .sequence items :: outer, .comma =>
      some (.value, .sequence (value :: items) :: outer)
  | .after value, .sequence items :: outer, .closeBracket =>
      some (.after (.sequence (value :: items).reverse), outer)
  | .after value, .mapping entries key :: outer, .comma =>
      some (.key ((key, value) :: entries), outer)
  | .after value, .mapping entries key :: outer, .closeBrace =>
      some (.after (.mapping ((key, value) :: entries).reverse), outer)
  | .after _, _, _ => none

/-- The document of a list of tokens that is read on from a focus. -/
def assemble : Focus → List Frame → List Token → Document
  | .after value, [], [] => ⟨value, true⟩
  | focus, frames, [] => breakOff focus frames
  | focus, frames, token :: later =>
      match advance focus frames token with
      | some (next, stack) => assemble next stack later
      | none => breakOff focus frames

/-- The document of a JSON text. -/
def read (text : String) : Document :=
  assemble .value [] (tokens text)

end MicroDevice.Json
