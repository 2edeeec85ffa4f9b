import MicroDevice.Text.Characters

/-! # Writing TOML strings

A string is written in the first of several forms that shows it with the fewest escapes:
between double quotes, between single quotes, or in one of the forms of several lines.
-/

namespace MicroDevice.Toml

/-- The forms a string may be written in. -/
inductive StringForm where
  | basic
  | literal
  | longBasic
  | longLiteral
  deriving DecidableEq, Repr

namespace StringForm

/-- Whether a character can only be written as an escape. -/
def isControl (c : Char) : Bool :=
  (c.toNat < 0x20 && c ≠ '\t' && c ≠ '\n') || c.toNat = 0x7F

/-- The length of the longest run of a character. -/
def longestRun (c : Char) : (run longest : Nat) → List Char → Nat
  | _, longest, [] => longest
  | run, longest, next :: later =>
      if next = c then longestRun c (run + 1) (max longest (run + 1)) later
      else longestRun c 0 longest later

/-- The form a string is written in. -/
def choose (chars : List Char) : StringForm :=
  let hasControl := chars.any isControl
  let hasLineEnd := chars.contains '\n'
  let hasBackslash := chars.contains '\\'
  if !hasControl && !hasBackslash && !chars.contains '"' && !hasLineEnd then basic
  else if !hasControl && !chars.contains '\'' && !hasLineEnd then literal
  else if !hasControl && !hasBackslash && longestRun '"' 0 0 chars ≤ 2 then longBasic
  else if !hasControl && longestRun '\'' 0 0 chars ≤ 2 then longLiteral
  else if hasLineEnd then longBasic
  else basic

/-- The quotes at either end of a form. -/
def delimiter : StringForm → List Char
  | basic => ['"']
  | literal => ['\'']
  | longBasic => ['"', '"', '"']
  | longLiteral => ['\'', '\'', '\'']

/-- Whether a form may hold several lines. -/
def isLong (form : StringForm) : Bool :=
  form = longBasic || form = longLiteral

end StringForm

/-- A character that is not a quote, as it stands between double quotes. -/
def escapedChar (isLong : Bool) (c : Char) : List Char :=
  if c = '\x08' then ['\\', 'b']
  else if c = '\t' then ['\\', 't']
  else if c = '\n' then if isLong then ['\n'] else ['\\', 'n']
  else if c = '\x0c' then ['\\', 'f']
  else if c = '\r' then ['\\', 'r']
  else if c = '\\' then ['\\', '\\']
  else if c.toNat < 0x10 then ['\\', 'u', '0', '0', '0', (Nat.digitChar c.toNat).toUpper]
  else if c.toNat < 0x20 then ['\\', 'u', '0', '0', '1', (Nat.digitChar (c.toNat - 0x10)).toUpper]
  else if c.toNat = 0x7F then ['\\', 'u', '0', '0', '7', 'F']
  else [c]

/-- The characters between double quotes. Of a run of quotes so many are written as they
are as `allowed` says, and then one is escaped. -/
def basicBody (isLong : Bool) (allowed : Nat) : (run : Nat) → List Char → List Char
  | _, [] => []
  | run, c :: later =>
      if c = '"' then
        if run < allowed then '"' :: basicBody isLong allowed (run + 1) later
        else '\\' :: '"' :: basicBody isLong allowed 0 later
      else escapedChar isLong c ++ basicBody isLong allowed 0 later

/-- The characters between the delimiters of a form. -/
def StringForm.body (form : StringForm) (chars : List Char) : List Char :=
  match form with
  | basic => basicBody false 0 0 chars
  | longBasic => basicBody true 2 0 chars
  | literal | longLiteral => chars

/-- A string in a form. A form of several lines begins with a line end if the string has one. -/
def StringForm.write (form : StringForm) (chars : List Char) : List Char :=
  form.delimiter ++ (if form.isLong && chars.contains '\n' then ['\n'] else []) ++
    form.body chars ++ form.delimiter

/-- The text of a string. -/
def stringText (text : String) : List Char :=
  (StringForm.choose text.toList).write text.toList

/-- The line that gives a name the text of a value. -/
def line (name : String) (value : List Char) : List Char :=
  name.toList ++ ' ' :: '=' :: ' ' :: value ++ ['\n']

/-- The lines that begin a table. -/
def tableHeader (name : String) : List Char :=
  '\n' :: '[' :: name.toList ++ [']', '\n']

end MicroDevice.Toml
