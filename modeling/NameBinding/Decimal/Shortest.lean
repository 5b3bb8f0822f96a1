/-
This file finds the decimal text of a binary number: the fewest digits that read back as the number,
and of those the nearest to it. The reals that round to a number form an interval around it, half way
to its neighbours, with the ends included if its mantissa is even. On the grid of decimals with a
given count of digits, only the two points around the number can be the nearest of the interval.
-/

import NameBinding.Decimal.Binary64

namespace NameBinding

namespace Binary64

/-! ### The interval of reals that round to a value -/

/-- Twice the distance from a value to the ends of its interval, below and above, over four times the
denominator of the value. The neighbour below a power of two is only half as far away. -/
structure Interval where
  /-- Four times the numerator of the value. -/
  centre : Nat
  /-- The lower end. -/
  low : Nat
  /-- The upper end. -/
  high : Nat
  /-- Four times the denominator of the value, common to all three. -/
  den : Nat
  /-- Whether the ends belong to the interval. -/
  closed : Bool

/-- The interval of a positive value. -/
def interval (value : Binary64) : Interval :=
  let (num, den) := powerOfTwo value.exponent
  let centre := 4 * value.mantissa * num
  let below := if value.mantissa = Nat.pow 2 (precision - 1) ∧ minExponent < value.exponent then num
    else 2 * num
  { centre := centre, low := centre - below, high := centre + 2 * num, den := 4 * den,
    closed := value.mantissa % 2 == 0 }

namespace Interval

/-- Whether a fraction lies in the interval. -/
def contains (interval : Interval) (num den : Nat) : Bool :=
  let point := num * interval.den
  let low := interval.low * den
  let high := interval.high * den
  if interval.closed then low ≤ point && point ≤ high else low < point && point < high

/-- The distance of a fraction from the centre, over the product of the denominators. -/
def distance (interval : Interval) (num den : Nat) : Nat :=
  let point := num * interval.den
  let centre := interval.centre * den
  (point - centre) + (centre - point)

end Interval

/-! ### Decimals -/

/-- A power of ten as a fraction. -/
def powerOfTen (exponent : Int) : Nat × Nat :=
  if 0 ≤ exponent then (Nat.pow 10 exponent.toNat, 1) else (1, Nat.pow 10 (-exponent).toNat)

/-- The number `digits * 10 ^ exponent`. -/
structure Decimal where
  digits : Nat
  exponent : Int
deriving DecidableEq

namespace Decimal

/-- The numerator and the denominator of a decimal. -/
def fraction (decimal : Decimal) : Nat × Nat :=
  let (num, den) := powerOfTen decimal.exponent
  (decimal.digits * num, den)

/-- Takes the zeros at the end of the digits into the exponent, at most this many. -/
def trim : Nat → Decimal → Decimal
  | 0, decimal => decimal
  | bound + 1, decimal =>
    if decimal.digits % 10 = 0 ∧ decimal.digits ≠ 0 then
      trim bound ⟨decimal.digits / 10, decimal.exponent + 1⟩
    else decimal

end Decimal

/-- The exponent of the leading decimal digit of a positive fraction. It is searched from a guess
that is at most two too small. -/
def leadingExponent (num den : Nat) : Int :=
  let guess : Int := ((Nat.log2 num : Int) - (Nat.log2 den : Int) - 1) * 30103 / 100000
  let reaches (exponent : Int) : Bool :=
    let (ten, one) := powerOfTen exponent
    decide (den * ten ≤ num * one)
  if reaches (guess + 2) then guess + 2
  else if reaches (guess + 1) then guess + 1
  else if reaches guess then guess
  else guess - 1

/-- The nearest point to a value on the decimal grid with this spacing, if one lies in the interval.
Of two that are equally near, the even one is taken. -/
def onGrid? (value : Binary64) (spacing : Int) : Option Decimal :=
  let (num, den) := value.fraction
  let (ten, one) := powerOfTen spacing
  let floor := num * one / (den * ten)
  let below : Decimal := ⟨floor, spacing⟩
  let above : Decimal := ⟨floor + 1, spacing⟩
  let interval := value.interval
  let inside (decimal : Decimal) : Bool :=
    interval.contains decimal.fraction.1 decimal.fraction.2
  let distance (decimal : Decimal) : Nat :=
    interval.distance decimal.fraction.1 decimal.fraction.2
  if inside below && inside above then
    if distance below < distance above then some below
    else if distance above < distance below then some above
    else if floor % 2 = 0 then some below
    else some above
  else if inside below then some below
  else if inside above then some above
  else none

/-- The nearest decimal with the fewest digits that reads back as a positive value. Seventeen digits
always do. -/
def shortest (value : Binary64) : Decimal :=
  let (num, den) := value.fraction
  let leading := leadingExponent num den
  let candidates := (List.range 17).map fun (count : Nat) => leading - (count : Int)
  let decimal := (candidates.findSome? value.onGrid?).getD ⟨value.mantissa, 0⟩
  decimal.trim 20

/-! ### Text -/

/-- The decimal places of a number as text: from `low` up to `high` the exponents of the leading
digit for which it is written without an exponent. -/
structure FloatStyle where
  low : Int
  high : Int

/-- Numbers are written in full between `0.00001` and sixteen digits before the point. -/
def plainStyle : FloatStyle := { low := -5, high := 15 }

/-- So many zeros. -/
def zeros (count : Nat) : String :=
  String.ofList (List.replicate count '0')

/-- The digits of an exponent after its sign. -/
def exponentText (exponent : Int) : String :=
  (if exponent < 0 then "-" else "+") ++ exponent.natAbs.repr

/-- The text of a decimal. A whole number ends in `.0` unless it has an exponent. -/
def Decimal.text (style : FloatStyle) (decimal : Decimal) : String :=
  let digits := decimal.digits.repr.toList
  let leading := decimal.exponent + (digits.length : Int) - 1
  if style.low ≤ leading ∧ leading ≤ style.high then
    if 0 ≤ decimal.exponent then
      String.ofList digits ++ zeros decimal.exponent.toNat ++ ".0"
    else if 0 ≤ leading then
      let whole := (leading + 1).toNat
      String.ofList (digits.take whole) ++ "." ++ String.ofList (digits.drop whole)
    else
      "0." ++ zeros (-leading - 1).toNat ++ String.ofList digits
  else
    let fraction := digits.drop 1
    String.ofList (digits.take 1) ++ (if fraction.isEmpty then "" else "." ++ String.ofList fraction) ++
      "e" ++ exponentText leading

/-- The text of a number with a sign. Zero has one, too. -/
def text (style : FloatStyle) (negative : Bool) (value : Binary64) : String :=
  let sign := if negative then "-" else ""
  if value.isZero then sign ++ "0.0" else sign ++ value.shortest.text style

end Binary64

end NameBinding
