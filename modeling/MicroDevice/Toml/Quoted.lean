import MicroDevice.Text.Characters

/-! # TOML strings

Readers for the four kinds of strings, each given the text after the opening delimiter.
A reader returns the characters of the string and the text after the closing delimiter.
-/

namespace MicroDevice.Toml

/-- The outcome of reading characters: those read and the text that follows. -/
abbrev Reading := Option (List Char × List Char)

/-- A reading with one more character before the others. -/
def Reading.cons (c : Char) (reading : Reading) : Reading :=
  reading.map fun (chars, rest) => (c :: chars, rest)

/-- Whether a character is a blank within a line. -/
def isBlank (c : Char) : Bool :=
  c = ' ' || c = '\t'

/-- Whether a character may stand in a comment or, unescaped, in a string of one line. -/
def isPlain (c : Char) : Bool :=
  c = '\t' || (0x20 ≤ c.toNat && c.toNat ≠ 0x7F)

/-- Whether a text begins with a line feed, as it must after a carriage return. -/
def beginsLineFeed (text : List Char) : Bool :=
  text.head? = some '\n'

/-- The text after a line end, if it begins with one. -/
def lineEnd? : List Char → Option (List Char)
  | '\n' :: rest => some rest
  | '\r' :: '\n' :: rest => some rest
  | _ => none

/-- What an escape has come to. -/
inductive Escape where
  /-- There is none. -/
  | none
  /-- A backslash has been read. -/
  | mark
  /-- Hexadecimal digits of a code point are still to come. -/
  | code (left : Nat) (value : Nat)
  /-- A backslash and blanks have been read, and the line is to end. -/
  | lineEnd
  /-- A line has ended after a backslash, and blanks and line ends are skipped. -/
  | skip
  deriving DecidableEq, Repr

/-- The character of an escape of one character. -/
def escaped? (c : Char) : Option Char :=
  match c with
  | 'b' => some '\x08'
  | 't' => some '\t'
  | 'n' => some '\n'
  | 'f' => some '\x0c'
  | 'r' => some '\r'
  | '"' => some '"'
  | '\\' => some '\\'
  | _ => none

/-- The number of digits of an escape by code point. -/
def codeLength? (c : Char) : Option Nat :=
  if c = 'u' then some 4 else if c = 'U' then some 8 else none

/-- The character of a code point, unless it is a surrogate or too great. -/
def character? (code : Nat) : Option Char :=
  if code < 0xD800 || (0xDFFF < code && code < 0x110000) then some (Char.ofNat code) else none

/-- Read a string between double quotes on one line. -/
def basicFrom : Escape → List Char → Reading
  | _, [] => none
  | .mark, c :: rest =>
      match escaped? c, codeLength? c with
      | some plain, _ => (basicFrom .none rest).cons plain
      | none, some length => basicFrom (.code length 0) rest
      | none, none => none
  | .code left value, c :: rest =>
      match Text.hexDigit? c with
      | none => none
      | some digit =>
          let value := value * 16 + digit
          if 1 < left then basicFrom (.code (left - 1) value) rest
          else (character? value).bind fun plain => (basicFrom .none rest).cons plain
  | _, c :: rest =>
      if c = '"' then some ([], rest)
      else if c = '\\' then basicFrom .mark rest
      else if isPlain c then (basicFrom .none rest).cons c
      else none

/-- Read a string between double quotes on one line. -/
def basic (text : List Char) : Reading :=
  basicFrom .none text

/-- Read a string between single quotes on one line. -/
def literal : List Char → Reading
  | [] => none
  | c :: rest =>
      if c = '\'' then some ([], rest)
      else if isPlain c then (literal rest).cons c
      else none

/-- The end of a string of several lines, at a run of three to five quotes: those before the
last three belong to the string. -/
def closing? (quote : Char) (text : List Char) : Reading :=
  let run := (text.take 5).takeWhile (· = quote)
  if 3 ≤ run.length then some (run.drop 3, text.drop run.length) else none

/-- What the escape at hand means for the next character: blanks are skipped up to the first
character that is none. -/
def Escape.settle (escape : Escape) (c : Char) : Escape :=
  if escape = .skip && !(isBlank c || c = '\n' || c = '\r') then .none else escape

/-- Read a string between three double quotes. -/
def longBasicFrom : Escape → List Char → Reading
  | _, [] => none
  | escape, c :: rest =>
      match escape.settle c with
      | .mark =>
          match escaped? c, codeLength? c with
          | some plain, _ => (longBasicFrom .none rest).cons plain
          | none, some length => longBasicFrom (.code length 0) rest
          | none, none =>
              if isBlank c then longBasicFrom .lineEnd rest
              else if c = '\n' then longBasicFrom .skip rest
              else if c = '\r' && beginsLineFeed rest then longBasicFrom .skip rest
              else none
      | .code left value =>
          match Text.hexDigit? c with
          | none => none
          | some digit =>
              let value := value * 16 + digit
              if 1 < left then longBasicFrom (.code (left - 1) value) rest
              else (character? value).bind fun plain => (longBasicFrom .none rest).cons plain
      | .lineEnd =>
          if isBlank c then longBasicFrom .lineEnd rest
          else if c = '\n' then longBasicFrom .skip rest
          else if c = '\r' && beginsLineFeed rest then longBasicFrom .skip rest
          else none
      | .skip =>
          if c = '\r' && !beginsLineFeed rest then none else longBasicFrom .skip rest
      | .none =>
          match closing? '"' (c :: rest) with
          | some reading => some reading
          | none =>
              if c = '\\' then longBasicFrom .mark rest
              else if c = '\n' || isPlain c then (longBasicFrom .none rest).cons c
              else if c = '\r' && beginsLineFeed rest then longBasicFrom .none rest
              else none

/-- Read a string between three single quotes. -/
def longLiteralFrom : List Char → Reading
  | [] => none
  | c :: rest =>
      match closing? '\'' (c :: rest) with
      | some reading => some reading
      | none =>
          if c = '\n' || isPlain c then (longLiteralFrom rest).cons c
          else if c = '\r' && beginsLineFeed rest then longLiteralFrom rest
          else none

/-- A text without the line end that it begins with, if it does. -/
def dropLineEnd (text : List Char) : List Char :=
  (lineEnd? text).getD text

/-- Read a string of any kind, with its delimiters. -/
def string : List Char → Reading
  | '"' :: '"' :: '"' :: rest => longBasicFrom .none (dropLineEnd rest)
  | '"' :: rest => basic rest
  | '\'' :: '\'' :: '\'' :: rest => longLiteralFrom (dropLineEnd rest)
  | '\'' :: rest => literal rest
  | _ => none

end MicroDevice.Toml
