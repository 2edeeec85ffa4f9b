import MicroDevice.Data.Datum

/-! # TOML dates and times

A date, a time, or a date with a time and perhaps an offset, each checked for its range.
-/

namespace MicroDevice.Toml

/-- The value of two digits, if it lies in a range. -/
def twoDigits? (first second : Char) (least greatest : Nat) : Option Nat :=
  let value := Nat.ofDigitChars 10 [first, second] 0
  if first.isDigit && second.isDigit && least ≤ value && value ≤ greatest then some value else none

/-- The number of days in a month. -/
def daysInMonth (year month : Nat) : Nat :=
  let isLeap := year % 4 = 0 && (year % 100 ≠ 0 || year % 400 = 0)
  if month = 2 then (if isLeap then 29 else 28)
  else if month = 4 || month = 6 || month = 9 || month = 11 then 30
  else 31

/-- The text after a date. -/
def date? : List Char → Option (List Char)
  | y1 :: y2 :: y3 :: y4 :: '-' :: m1 :: m2 :: '-' :: d1 :: d2 :: rest => do
      let month ← twoDigits? m1 m2 1 12
      let year := Nat.ofDigitChars 10 [y1, y2, y3, y4] 0
      let _ ← twoDigits? d1 d2 1 (daysInMonth year month)
      if [y1, y2, y3, y4].all Char.isDigit then some rest else none
  | _ => none

/-- The text after a fraction of a second, if there is one. -/
def dropSecondFraction : List Char → List Char
  | '.' :: digit :: rest =>
      if digit.isDigit then rest.dropWhile Char.isDigit else '.' :: digit :: rest
  | text => text

/-- The text after a time of day. A minute may have a leap second. -/
def time? : List Char → Option (List Char)
  | h1 :: h2 :: ':' :: m1 :: m2 :: ':' :: s1 :: s2 :: rest => do
      let _ ← twoDigits? h1 h2 0 23
      let _ ← twoDigits? m1 m2 0 59
      let _ ← twoDigits? s1 s2 0 60
      return dropSecondFraction rest
  | _ => none

/-- The text after an offset, if there is one. -/
def dropOffset : List Char → List Char
  | 'Z' :: rest => rest
  | 'z' :: rest => rest
  | mark :: h1 :: h2 :: ':' :: m1 :: m2 :: rest =>
      if (mark = '+' || mark = '-') && (twoDigits? h1 h2 0 23).isSome
          && (twoDigits? m1 m2 0 59).isSome then rest
      else mark :: h1 :: h2 :: ':' :: m1 :: m2 :: rest
  | text => text

/-- The text after what may follow a date: a time, and an offset after that. -/
def dropTime (text : List Char) : List Char :=
  match text with
  | mark :: rest =>
      if mark = 'T' || mark = 't' || mark = ' ' then
        match time? rest with
        | some rest => dropOffset rest
        | none => text
      else text
  | [] => []

/-- The text after a date or a time. -/
def afterMoment? (text : List Char) : Option (List Char) :=
  match date? text with
  | some rest => some (dropTime rest)
  | none => time? text

/-- The key under which a reader meets the text of a date or a time. -/
def momentKey : String := "$__toml_private_datetime"

/-- A date or a time at the beginning of a text, and the text that follows. -/
def moment (text : List Char) : Option (Datum × List Char) :=
  (afterMoment? text).map fun rest =>
    (.mapping [(some momentKey, .string (String.ofList (text.take (text.length - rest.length))))],
      rest)

end MicroDevice.Toml
