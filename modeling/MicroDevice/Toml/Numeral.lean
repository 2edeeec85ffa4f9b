import MicroDevice.Data.Datum
import MicroDevice.Number.Shortest
import MicroDevice.Text.Characters

/-! # TOML numbers

Integers are written in base ten, sixteen, eight or two and have 64 bits with a sign.
Floating-point numbers are rounded to the nearest double; one above the greatest is
refused. An underscore may stand between two digits.
-/

namespace MicroDevice.Toml

/-- Digits with single underscores between them: the digits, and the text that follows. -/
def digits (isDigit : Char → Bool) (text : List Char) : Option (List Char × List Char) :=
  let run := text.takeWhile fun c => isDigit c || c = '_'
  if (run.splitOn '_').any (· = []) then none
  else some (run.filter (· ≠ '_'), text.drop run.length)

/-- The bound of the magnitude of integers. -/
def integerBound : Int := 0x8000000000000000

/-- A datum of an integer of 64 bits with a sign. -/
def signedDatum? (value : Int) : Option Datum :=
  if -integerBound ≤ value && value < integerBound then some (.integer value) else none

/-- The base and the digits that a letter after a leading zero announces. -/
def radix? (c : Char) : Option (Nat × (Char → Bool)) :=
  match c with
  | 'x' => some (16, fun digit => (Text.hexDigit? digit).isSome)
  | 'o' => some (8, fun digit => '0' ≤ digit && digit ≤ '7')
  | 'b' => some (2, fun digit => digit = '0' || digit = '1')
  | _ => none

/-- An integer in another base, given the letter and the text after it. -/
def radixInteger? (letter : Char) (text : List Char) : Option (Datum × List Char) := do
  let (base, isDigit) ← radix? letter
  let (written, rest) ← digits isDigit text
  let value := written.foldl (fun value c => value * base + (Text.hexDigit? c).getD 0) 0
  let datum ← signedDatum? value
  return (datum, rest)

/-- The decimal digits before a point: a zero stands alone. -/
def wholeDigits (text : List Char) : Option (List Char × List Char) := do
  let (written, rest) ← digits Char.isDigit text
  if written.head? = some '0' && 1 < written.length then none else return (written, rest)

/-- The digits after a point, if there is one. -/
def fractionDigits : List Char → Option (Option (List Char) × List Char)
  | '.' :: rest => do
      let (written, rest) ← digits Char.isDigit rest
      return (some written, rest)
  | text => some (none, text)

/-- A sign, if there is one: whether it is a minus, and the text that follows. -/
def sign : List Char → Bool × List Char
  | '-' :: rest => (true, rest)
  | '+' :: rest => (false, rest)
  | text => (false, text)

/-- The power of ten after an exponent mark, if there is one. -/
def exponentPart : List Char → Option (Option Int × List Char)
  | [] => some (none, [])
  | mark :: rest =>
      if mark = 'e' || mark = 'E' then do
        let (negative, rest) := sign rest
        let (written, rest) ← digits Char.isDigit rest
        let value : Int := Nat.ofDigitChars 10 written 0
        return (some (if negative then -value else value), rest)
      else some (none, mark :: rest)

/-- The powers of ten of the first digit between which a number is neither zero nor infinite
as a double. -/
def magnitudeBound : Int := 400

/-- The double nearest to digits that are scaled by a power of ten. -/
def nearest (written : List Char) (power : Int) : Float :=
  let digits := Nat.ofDigitChars 10 written 0
  let leading := ((Nat.toDigits 10 digits).length : Int) + power
  if digits = 0 || leading < -magnitudeBound then 0.0
  else if magnitudeBound < leading then 1.0 / 0.0
  else
    match power with
    | .ofNat power => Float.ofScientific digits false power
    | .negSucc power => Float.ofScientific digits true (power + 1)

/-- How messages write a double: always positional. -/
def floatStyle : Number.FloatStyle := ⟨-1000, 1000⟩

/-- A datum of a double of a sign. -/
def floatDatum (negative : Bool) (magnitude : Float) : Datum :=
  .float (Number.floatText floatStyle (if negative then -magnitude else magnitude))

/-- A number of a sign: `inf`, `nan`, or decimal digits that a fraction or an exponent makes
a floating-point number. -/
def unsignedNumber (negative : Bool) (text : List Char) : Option (Datum × List Char) :=
  match text with
  | 'i' :: 'n' :: 'f' :: rest => some (floatDatum negative (1.0 / 0.0), rest)
  | 'n' :: 'a' :: 'n' :: rest => some (floatDatum false (0.0 / 0.0), rest)
  | _ => do
      let (whole, rest) ← wholeDigits text
      let (fraction, rest) ← fractionDigits rest
      let (exponent, rest) ← exponentPart rest
      if fraction.isNone && exponent.isNone then
        let value : Int := Nat.ofDigitChars 10 whole 0
        let datum ← signedDatum? (if negative then -value else value)
        return (datum, rest)
      else
        let part := fraction.getD []
        let magnitude := nearest (whole ++ part) (exponent.getD 0 - part.length)
        if magnitude.isInf && !negative then none
        else return (floatDatum negative magnitude, rest)

/-- A number at the beginning of a text, and the text that follows. -/
def number : List Char → Option (Datum × List Char)
  | '0' :: letter :: rest =>
      if (radix? letter).isSome then radixInteger? letter rest
      else unsignedNumber false ('0' :: letter :: rest)
  | text =>
      let (negative, rest) := sign text
      unsignedNumber negative rest

end MicroDevice.Toml
