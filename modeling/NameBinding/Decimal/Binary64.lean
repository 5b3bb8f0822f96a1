/-
This file defines the finite binary numbers of double precision and their arithmetic, without sign.
A value is a mantissa times a power of two, both exact, and every operation is the exact rational
result rounded to the nearest value, a tie going to the even mantissa. So a decimal text can be given
the value that a machine computes for it step by step, and nothing here depends on a machine.
-/

namespace NameBinding

/-- The number `mantissa * 2 ^ exponent`. -/
structure Binary64 where
  mantissa : Nat
  exponent : Int
deriving DecidableEq

namespace Binary64

/-- The least exponent, that of the numbers next to zero. -/
def minExponent : Int := -1074

/-- The greatest exponent; beyond it a number is infinite. -/
def maxExponent : Int := 971

/-- How many bits a mantissa has at most. -/
def precision : Nat := 53

/-- Zero. -/
def zero : Binary64 := ⟨0, minExponent⟩

/-- A power of two as a fraction. -/
def powerOfTwo (exponent : Int) : Nat × Nat :=
  if 0 ≤ exponent then (Nat.pow 2 exponent.toNat, 1) else (1, Nat.pow 2 (-exponent).toNat)

/-- The numerator and the denominator of a value. -/
def fraction (value : Binary64) : Nat × Nat :=
  let (num, den) := powerOfTwo value.exponent
  (value.mantissa * num, den)

/-- The natural number nearest to a fraction, of two the even one. -/
def roundDiv (num den : Nat) : Nat :=
  let quotient := num / den
  let twice := 2 * (num % den)
  if twice < den then quotient
  else if den < twice then quotient + 1
  else if quotient % 2 = 0 then quotient
  else quotient + 1

/-- The exponent at which a positive fraction fills the mantissa. The difference of the two bit
lengths is this exponent plus the precision, or one more. -/
def exponentFor (num den : Nat) : Int :=
  let guess : Int := (Nat.log2 num : Int) - (Nat.log2 den : Int) - (precision : Int) + 1
  let (two, one) := powerOfTwo guess
  let filled := den * two * Nat.pow 2 (precision - 1) ≤ num * one
  max (if filled then guess else guess - 1) minExponent

/-- The value nearest to a fraction. There is none if the fraction is beyond the greatest value. -/
def round (num den : Nat) : Option Binary64 :=
  if num = 0 then some zero
  else
    let exponent := exponentFor num den
    let (two, one) := powerOfTwo exponent
    let mantissa := roundDiv (num * one) (den * two)
    let value : Binary64 :=
      if mantissa = Nat.pow 2 precision then ⟨Nat.pow 2 (precision - 1), exponent + 1⟩
      else ⟨mantissa, exponent⟩
    if value.exponent ≤ maxExponent then some value else none

/-- The value nearest to a natural number. -/
def ofNat? (n : Nat) : Option Binary64 :=
  round n 1

/-- The rounded product. -/
def mul? (a b : Binary64) : Option Binary64 :=
  round (a.fraction.1 * b.fraction.1) (a.fraction.2 * b.fraction.2)

/-- The rounded quotient by a positive value. -/
def div? (a b : Binary64) : Option Binary64 :=
  round (a.fraction.1 * b.fraction.2) (a.fraction.2 * b.fraction.1)

/-- Whether a value is zero. -/
def isZero (value : Binary64) : Bool :=
  value.mantissa == 0

end Binary64

end NameBinding
