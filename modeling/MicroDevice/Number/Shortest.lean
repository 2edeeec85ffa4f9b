/-! # Shortest decimal texts

A positive binary number `mantissa * 2 ^ exponent` stands for an interval of reals: those
that round to it. `Binary.shortest` finds the decimal with the fewest digits in that
interval, the nearest to the number where there are several, and the even one of two that
are equally near. All arithmetic is exact.
-/

namespace MicroDevice.Number

/-- A positive binary floating-point number, and whether the number below it is nearer than
the one above, as it is at a power of two. -/
structure Binary where
  mantissa : Nat
  exponent : Int
  narrowBelow : Bool
  deriving Repr

/-- A decimal number: its digits as a natural number, and the power of ten of the first. -/
structure Decimal where
  digits : Nat
  leading : Int
  deriving DecidableEq, Repr

/-- A fraction of natural numbers. -/
structure Ratio where
  num : Nat
  den : Nat
  deriving Repr

namespace Ratio

/-- A fraction times a power of ten. -/
def scale (ratio : Ratio) (power : Int) : Ratio :=
  match power with
  | .ofNat n => ⟨ratio.num * Nat.pow 10 n, ratio.den⟩
  | .negSucc n => ⟨ratio.num, ratio.den * Nat.pow 10 (n + 1)⟩

/-- The number of digits of a natural number, zero for zero. -/
def width (n : Nat) : Nat :=
  if n = 0 then 0 else (Nat.toDigits 10 n).length

/-- The least power of ten, up to a bound, that lifts a fraction to one or more. -/
def lift (ratio : Ratio) (bound : Nat) : Nat :=
  ((List.range bound).find? fun n => ratio.den ≤ ratio.num * Nat.pow 10 n).getD bound

/-- The power of ten of the first digit of a positive fraction. -/
def leading (ratio : Ratio) : Int :=
  if ratio.den ≤ ratio.num then (width (ratio.num / ratio.den) : Int) - 1
  else - (ratio.lift 400 : Int)

end Ratio

namespace Binary

/-- The units that the interval of a number is measured in: a quarter of its last place. -/
def unit (value : Binary) (count : Nat) : Ratio :=
  match value.exponent - 2 with
  | .ofNat n => ⟨count * Nat.pow 2 n, 1⟩
  | .negSucc n => ⟨count, Nat.pow 2 (n + 1)⟩

/-- Whether `digits` at the scale `power` lies in the interval of a number. The ends belong
to it when the mantissa is even. -/
def admits (value : Binary) (digits : Nat) (power : Int) : Bool :=
  let low := (value.unit (4 * value.mantissa - if value.narrowBelow then 1 else 2)).scale power
  let high := (value.unit (4 * value.mantissa + 2)).scale power
  if value.mantissa % 2 = 0 then
    low.num ≤ digits * low.den && digits * high.den ≤ high.num
  else
    low.num < digits * low.den && digits * high.den < high.num

/-- The decimal with a given number of digits in the interval of a number, the nearer of the
two grid points next to it. -/
def onGrid? (value : Binary) (leading : Int) (count : Nat) : Option Decimal :=
  let power := (count : Int) - 1 - leading
  let exact := (value.unit (4 * value.mantissa)).scale power
  let below := exact.num / exact.den
  let remainder := exact.num % exact.den
  let nearer :=
    if 2 * remainder < exact.den then below
    else if exact.den < 2 * remainder then below + 1
    else if below % 2 = 0 then below else below + 1
  let other := if nearer = below then below + 1 else below
  if value.admits nearer power then some ⟨nearer, leading⟩
  else if value.admits other power then some ⟨other, leading⟩
  else none

/-- The shortest decimal in the interval of a number, with its digits counted from `leading`. -/
def shortest (value : Binary) : Decimal :=
  let leading := (value.unit (4 * value.mantissa)).leading
  ((List.range 17).findSome? fun fewer => (value.onGrid? leading (fewer + 1)).map
    fun found => if found.digits = Nat.pow 10 (fewer + 1) then ⟨1, leading + 1⟩ else found).getD
    ⟨value.mantissa, leading⟩

end Binary

/-- A floating-point value, taken apart. -/
inductive Parts where
  | nan
  | infinite (negative : Bool)
  | zero (negative : Bool)
  | finite (negative : Bool) (magnitude : Binary)

/-- The parts of a double, read from its bits. -/
def Parts.ofFloat (value : Float) : Parts :=
  let bits := value.toBits.toNat
  let negative := 0x8000000000000000 ≤ bits
  let biased : Nat := bits / 0x10000000000000 % 0x800
  let fraction : Nat := bits % 0x10000000000000
  if biased = 2047 then
    if fraction = 0 then .infinite negative else .nan
  else if biased = 0 then
    if fraction = 0 then .zero negative else .finite negative ⟨fraction, -1074, false⟩
  else
    .finite negative
      ⟨0x10000000000000 + fraction, (biased : Int) - 1075, fraction = 0 && 1 < biased⟩

/-- The powers of ten of the first digit for which a text is positional. -/
structure FloatStyle where
  least : Int
  greatest : Int

/-- The digits of a decimal in positional notation, with at least one digit on each side of
the point. -/
def positional (value : Decimal) : List Char :=
  let digits := Nat.toDigits 10 value.digits
  match value.leading with
  | .ofNat n =>
      let whole := digits.take (n + 1)
      let part := digits.drop (n + 1)
      whole ++ List.replicate (n + 1 - whole.length) '0' ++ '.' ::
        (if part = [] then ['0'] else part)
  | .negSucc n => '0' :: '.' :: (List.replicate n '0' ++ digits)

/-- The digits of a decimal with a power of ten, whose sign is always written. -/
def scientific (value : Decimal) : List Char :=
  let power := Nat.toDigits 10 value.leading.natAbs
  (match Nat.toDigits 10 value.digits with
    | [] => []
    | [digit] => [digit]
    | digit :: part => digit :: '.' :: part) ++
    'e' :: (if value.leading < 0 then '-' else '+') :: power

/-- The digits of a decimal without the zeros at their end. -/
def Decimal.trimmed (value : Decimal) : Decimal :=
  ⟨Nat.ofDigitChars 10 ((Nat.toDigits 10 value.digits).reverse.dropWhile (· = '0')).reverse 0,
    value.leading⟩

/-- The text of a double: positional where the style says so, always with a point or an
exponent if it is finite. -/
def floatText (style : FloatStyle) (value : Float) : String :=
  let sign (negative : Bool) := if negative then "-" else ""
  match Parts.ofFloat value with
  | .nan => "NaN"
  | .infinite negative => sign negative ++ "inf"
  | .zero negative => sign negative ++ "0.0"
  | .finite negative magnitude =>
      let value := magnitude.shortest.trimmed
      sign negative ++ String.ofList
        (if style.least ≤ value.leading && value.leading ≤ style.greatest then positional value
        else scientific value)

end MicroDevice.Number
