/-
This file gives numerals their values. A numeral without point and exponent is a whole number as long
as it fits a machine word; every other numeral is a floating number. The value of one is found in
steps, as a machine does it: the first digits that fit a word of sixty-four bits are taken as a whole
number, which is rounded and then scaled by powers of ten, rounding each time. Digits that no longer
fit count as zeros before the point, and as nothing after it.
-/

import NameBinding.Json.Token

namespace NameBinding

/-- The value of a numeral. -/
inductive Number
  | whole (value : Int)
  | float (negative : Bool) (magnitude : Binary64)
deriving DecidableEq

namespace Number

/-- The number as a thing that was found. -/
def found : Number → Found
  | whole value => .int value
  | float negative magnitude => .float negative magnitude

/-- The greatest word of sixty-four bits. -/
def maxWord : Nat := Nat.pow 2 64 - 1

/-- The greatest exponent that is kept, that of a word of thirty-two bits with a sign. -/
def maxExponent : Nat := Nat.pow 2 31 - 1

/-- The value of a decimal digit. -/
def digitValue (c : Char) : Nat := c.toNat - '0'.toNat

/-- Takes up digits as long as the number they make is at most `bound`. Gives the number and the
digits that are left. -/
def absorb (bound : Nat) : Nat → List Char → Nat × List Char
  | value, [] => (value, [])
  | value, c :: rest =>
    let next := value * 10 + digitValue c
    if next ≤ bound then absorb bound next rest else (value, c :: rest)

/-- Ten to a power that is a finite number. -/
def tenTo (exponent : Nat) : Binary64 :=
  (Binary64.ofNat? (Nat.pow 10 exponent)).getD Binary64.zero

/-- Scales a value by a power of ten. A value that is scaled down far is divided by the greatest power
as often as needed, and stays what it is once it is zero. -/
def scale : Nat → Binary64 → Int → Option Binary64
  | 0, value, _ => some value
  | bound + 1, value, exponent =>
    if exponent.natAbs ≤ 308 then
      if 0 ≤ exponent then value.mul? (tenTo exponent.toNat)
      else value.div? (tenTo exponent.natAbs)
    else if value.isZero then some value
    else if 0 ≤ exponent then none
    else (value.div? (tenTo 308)).bind fun value => scale bound value (exponent + 308)

/-- The floating number with these significant digits and this power of ten. Four divisions turn
every word into zero, so a few more than that are always enough. -/
def ofSignificand (negative : Bool) (significand : Nat) (exponent : Int) :
    Except ReadError Number :=
  match (Binary64.ofNat? significand).bind fun value => scale 8 value exponent with
  | some value => .ok (.float negative value)
  | none => .error .numberOutOfRange

/-- Adds the exponent that is written to the one that the digits have. -/
def withExponent (negative : Bool) (significand : Nat) (start : Int) (down : Bool)
    (exponent : List Char) : Except ReadError Number :=
  match absorb maxExponent 0 exponent with
  | (value, []) =>
    ofSignificand negative significand (if down then start - value else start + value)
  | _ =>
    if significand ≠ 0 ∧ down = false then .error .numberOutOfRange
    else .ok (.float negative Binary64.zero)

/-- The value of a numeral without point and exponent. -/
def ofWhole (negative : Bool) (significand : Nat) : Number :=
  if negative = false then .whole significand
  else if 0 < significand ∧ significand ≤ Nat.pow 2 63 then .whole (-significand)
  else .float true ((Binary64.ofNat? significand).getD Binary64.zero)

/-- The value of a numeral. -/
def ofNumeral (numeral : Reader.Numeral) : Except ReadError Number :=
  let (significand, dropped) := absorb maxWord 0 numeral.whole
  let afterPoint := numeral.fraction.getD []
  let (significand', left) := absorb maxWord significand afterPoint
  let start : Int := (dropped.length : Int) - ((afterPoint.length - left.length : Nat) : Int)
  match numeral.exponent with
  | some (down, exponent) => withExponent numeral.negative significand' start down exponent
  | none =>
    if numeral.fraction.isNone ∧ dropped.isEmpty then .ok (ofWhole numeral.negative significand)
    else ofSignificand numeral.negative significand' start

end Number

namespace Reader

/-- Reads a number and finds its value. -/
def number : Reader Number := fun text => do
  let (numeral, rest) ← numeral (.truncated .value) text
  let value ← Number.ofNumeral numeral
  .ok (value, rest)

end Reader

end NameBinding
