import MicroDevice.Data.Datum
import MicroDevice.Number.Shortest

/-! # JSON numerals

A numeral is scanned character by character (`Scan.push`) and then valued. Numerals
without a point or an exponent that fit a 64-bit integer are integers, except for a negative
zero; all others are doubles. A double keeps the digits that fit a 64-bit word and is scaled
by one power of ten, so its last place may differ from the nearest double.
-/

namespace MicroDevice.Json

/-- The parts of a numeral, each in the order written. -/
structure Numeral where
  negative : Bool
  whole : List Char
  fraction : Option (List Char)
  exponent : Option (Bool × List Char)
  deriving DecidableEq, Repr

/-- How far the scan of a numeral has come. -/
inductive Stage where
  | sign
  | zero
  | whole
  | point
  | fraction
  | mark
  | markSign
  | exponent
  deriving DecidableEq, Repr

/-- A numeral being scanned. -/
structure Scan where
  stage : Stage
  numeral : Numeral
  deriving DecidableEq, Repr

/-- What a character does to a numeral being scanned. -/
inductive Push where
  | more (scan : Scan)
  | done
  | broken

namespace Scan

/-- The scan of a numeral that begins with a character, if one does. -/
def begin? (c : Char) : Option Scan :=
  if c = '-' then some ⟨.sign, ⟨true, [], none, none⟩⟩
  else if c = '0' then some ⟨.zero, ⟨false, [c], none, none⟩⟩
  else if c.isDigit then some ⟨.whole, ⟨false, [c], none, none⟩⟩
  else none

/-- Whether a numeral may end where the scan has come. -/
def isComplete (scan : Scan) : Bool :=
  match scan.stage with
  | .zero | .whole | .fraction | .exponent => true
  | _ => false

/-- The end of a numeral, if it may end. -/
def stop (scan : Scan) : Push :=
  if scan.isComplete then .done else .broken

/-- The scan after a point or an exponent mark, or the end of the numeral. -/
def pushMark (scan : Scan) (c : Char) : Push :=
  if c = '.' && scan.stage ≠ .fraction then
    .more ⟨.point, { scan.numeral with fraction := some [] }⟩
  else if c = 'e' || c = 'E' then
    .more ⟨.mark, { scan.numeral with exponent := some (false, []) }⟩
  else scan.stop

/-- The scan after one more digit of a part. -/
def pushDigit (scan : Scan) (c : Char) : Scan :=
  let numeral := scan.numeral
  match scan.stage with
  | .sign => ⟨if c = '0' then .zero else .whole, { numeral with whole := [c] }⟩
  | .zero | .whole => ⟨.whole, { numeral with whole := numeral.whole ++ [c] }⟩
  | .point | .fraction =>
      ⟨.fraction, { numeral with fraction := numeral.fraction.map (· ++ [c]) }⟩
  | .mark | .markSign | .exponent =>
      ⟨.exponent,
        { numeral with exponent := numeral.exponent.map fun part => (part.1, part.2 ++ [c]) }⟩

/-- The scan after one more character. -/
def push (scan : Scan) (c : Char) : Push :=
  if c.isDigit then
    if scan.stage = .zero then .broken else .more (scan.pushDigit c)
  else
    match scan.stage with
    | .zero | .whole | .fraction => scan.pushMark c
    | .mark =>
        if c = '+' || c = '-' then
          .more ⟨.markSign, { scan.numeral with exponent := some (c = '-', []) }⟩
        else .broken
    | .exponent => .done
    | .sign | .point | .markSign => .broken

end Scan

namespace Numeral

/-- The value of a digit. -/
def digitValue (c : Char) : Nat :=
  c.toNat - '0'.toNat

/-- The bound of the significand. -/
def wordBound : Nat := UInt64.size

/-- Take digits into a significand while it stays a word. The result is the significand and
the number of digits left over. -/
def take : (significand : Nat) → List Char → Nat × Nat
  | significand, [] => (significand, 0)
  | significand, digit :: later =>
      let next := significand * 10 + digitValue digit
      if next < wordBound then take next later else (significand, later.length + 1)

/-- The significand of a numeral and its power of ten, without the written exponent. -/
def significand (numeral : Numeral) : Nat × Int :=
  let (whole, dropped) := take 0 numeral.whole
  let fraction := numeral.fraction.getD []
  let (digits, unread) := take whole fraction
  (digits, (dropped : Int) - ((fraction.length - unread : Nat) : Int))

/-- The bound of a written exponent; one that reaches it is beyond every double. -/
def exponentBound : Nat := 0x80000000

/-- Ten to a power, as a double. -/
def powerOfTen (power : Nat) : Float :=
  Float.ofScientific 1 false power

/-- Scale a double down by a power of ten, in steps of at most 308. -/
def scaleDown (value : Float) : (fuel power : Nat) → Float
  | 0, _ => value
  | fuel + 1, power =>
      if power ≤ 308 then value / powerOfTen power
      else if value == 0.0 then value
      else scaleDown (value / powerOfTen 308) fuel (power - 308)

/-- A significand scaled by a power of ten, unless it is beyond every double. -/
def scaled? (significand : Nat) (power : Int) : Option Float :=
  let value := (UInt64.ofNat significand).toFloat
  match power with
  | .ofNat power =>
      if power ≤ 308 then
        let result := value * powerOfTen power
        if result.isInf then none else some result
      else if value == 0.0 then some value else none
  | .negSucc power => some (scaleDown value (power + 1) (power + 1))

/-- The magnitude of a numeral as a double, unless it is beyond every double. -/
def magnitude? (numeral : Numeral) : Option Float :=
  let (digits, power) := numeral.significand
  match numeral.exponent with
  | none => scaled? digits power
  | some (negative, written) =>
      let exponent := Nat.ofDigitChars 10 written 0
      if exponent < exponentBound then
        scaled? digits (if negative then power - exponent else power + exponent)
      else if digits = 0 || negative then some 0.0
      else none

/-- How messages write a double: positional from `0.00001` up to sixteen digits before the
point. -/
def floatStyle : Number.FloatStyle := ⟨-5, 15⟩

/-- The datum of a double of a sign. -/
def floatDatum (negative : Bool) (magnitude : Float) : Datum :=
  .float (Number.floatText floatStyle (if negative then -magnitude else magnitude))

/-- The magnitude of the least integer that messages write as one. -/
def leastMagnitude : Nat := 0x8000000000000000

/-- What a numeral denotes. -/
def datum (numeral : Numeral) : Datum :=
  let value := Nat.ofDigitChars 10 numeral.whole 0
  let isInteger := numeral.fraction.isNone && numeral.exponent.isNone
  if isInteger && !numeral.negative && value < wordBound then .integer value
  else if isInteger && numeral.negative && 0 < value && value ≤ leastMagnitude then
    .integer (-value)
  else
    match numeral.magnitude? with
    | some magnitude => floatDatum numeral.negative magnitude
    | none => .unreadable

end Numeral

end MicroDevice.Json
