import MicroDevice.Toml.Moment
import MicroDevice.Toml.Numeral
import MicroDevice.Toml.Quoted
import MicroDevice.Toml.Table

/-! # TOML keys and values

Readers for keys and values. Each takes a text that begins with what it reads and returns
the text that follows. Arrays and inline tables nest up to a limit, and so do the parts of
a dotted key.
-/

namespace MicroDevice.Toml

/-- The number of arrays and inline tables that may be open at once, and of the parts of a
dotted key. -/
def nestingLimit : Nat := 79

/-- A text without the blanks that it begins with. -/
def dropBlanks (text : List Char) : List Char :=
  text.dropWhile isBlank

/-- Whether a character may stand in a key without quotes. -/
def isBare (c : Char) : Bool :=
  ('a' ≤ c && c ≤ 'z') || ('A' ≤ c && c ≤ 'Z') || c.isDigit || c = '-' || c = '_'

/-- One part of a key. -/
def keyPart : List Char → Reading
  | '"' :: rest => basic rest
  | '\'' :: rest => literal rest
  | text =>
      let name := text.takeWhile isBare
      if name = [] then none else some (name, text.drop name.length)

/-- The parts of a key, at most so many as the limit says. -/
def keyParts : (limit : Nat) → List Char → Option (List String × List Char)
  | 0, _ => none
  | limit + 1, text => do
      let (part, rest) ← keyPart (dropBlanks text)
      match dropBlanks rest with
      | '.' :: rest =>
          let (later, rest) ← keyParts limit rest
          return (String.ofList part :: later, rest)
      | rest => return ([String.ofList part], rest)

/-- A key, with the blanks around it. -/
def keyPath (text : List Char) : Option (KeyPath × List Char) := do
  let (parts, rest) ← keyParts nestingLimit text
  let name ← parts.getLast?
  return (⟨parts.dropLast, name⟩, rest)

/-- The text after blanks, line ends and comments. A comment has to end with its line. -/
def dropTrivia : (inComment : Bool) → List Char → Option (List Char)
  | true, [] => none
  | false, [] => some []
  | inComment, c :: rest =>
      if c = '\n' then dropTrivia false rest
      else if c = '\r' then if beginsLineFeed rest then dropTrivia inComment rest else none
      else if inComment then if isPlain c then dropTrivia true rest else none
      else if isBlank c then dropTrivia false rest
      else if c = '#' then dropTrivia true rest
      else some (c :: rest)

/-- The items of an array, after its opening bracket. The fuel bounds their number. -/
def items (value : List Char → Option (Datum × List Char)) :
    (fuel : Nat) → List Char → Option (List Datum × List Char)
  | 0, _ => none
  | fuel + 1, text => do
      match ← dropTrivia false text with
      | ']' :: rest => return ([], rest)
      | text =>
          let (item, rest) ← value text
          match ← dropTrivia false rest with
          | ']' :: rest => return ([item], rest)
          | ',' :: rest =>
              let (later, rest) ← items value fuel rest
              return (item :: later, rest)
          | _ => none

/-- A key and its value. -/
def member (value : List Char → Option (Datum × List Char)) (text : List Char) :
    Option ((KeyPath × Datum) × List Char) := do
  let (key, rest) ← keyPath text
  match rest with
  | '=' :: rest =>
      let (datum, rest) ← value (dropBlanks rest)
      return ((key, datum), rest)
  | _ => none

/-- The members of an inline table, of which there is at least one. The fuel bounds their
number. -/
def members (value : List Char → Option (Datum × List Char)) :
    (fuel : Nat) → List Char → Option (List (KeyPath × Datum) × List Char)
  | 0, _ => none
  | fuel + 1, text => do
      let (first, rest) ← member value text
      match dropBlanks rest with
      | '}' :: rest => return ([first], rest)
      | ',' :: rest =>
          let (later, rest) ← members value fuel rest
          return (first :: later, rest)
      | _ => none

/-- An inline table, after its opening brace. -/
def inlineTable (value : List Char → Option (Datum × List Char)) (text : List Char) :
    Option (Datum × List Char) :=
  match dropBlanks text with
  | '}' :: rest => some (.mapping [], rest)
  | _ => do
      let (assignments, rest) ← members value text.length text
      let datum ← inlineTable? assignments
      return (datum, rest)

/-- A value that contains no others. -/
def scalar (text : List Char) : Option (Datum × List Char) :=
  match text with
  | 't' :: 'r' :: 'u' :: 'e' :: rest => some (.boolean true, rest)
  | 'f' :: 'a' :: 'l' :: 's' :: 'e' :: rest => some (.boolean false, rest)
  | '"' :: _ | '\'' :: _ =>
      (string text).map fun (chars, rest) => (.string (String.ofList chars), rest)
  | _ => (moment text).or (number text)

/-- A value in which arrays and inline tables nest at most so deep as the limit says. -/
def value : (limit : Nat) → List Char → Option (Datum × List Char)
  | limit + 1, '[' :: rest => do
      let (data, rest) ← items (value limit) (rest.length + 1) rest
      return (.sequence data, rest)
  | limit + 1, '{' :: rest => inlineTable (value limit) rest
  | _, text => scalar text

end MicroDevice.Toml
