/-!
# Finite binary64 numbers

A finite binary64 number is kept exactly, as a sign, a mantissa and a count of units, where the
unit is the smallest positive number, 2^-1074. Each finite number has one representation (zero
has one for each sign), so equality of values is equality of data. Arithmetic goes through exact
fractions and one rounding to the nearest number, halves to the even mantissa.
-/
namespace ColumnSelection.Numeric

/-- The number with absolute value `mantissa * 2^exponent` units of 2^-1074. -/
structure Binary64 where
  negative : Bool
  mantissa : Nat
  exponent : Nat
  mantissa_lt : mantissa < Nat.pow 2 53
  exponent_le : exponent ≤ 2045
  normal : exponent = 0 ∨ Nat.pow 2 52 ≤ mantissa
deriving DecidableEq

namespace Binary64

/-- Zero of either sign. -/
def zero (negative : Bool) : Binary64 :=
  ⟨negative, 0, 0, by decide, by decide, Or.inl rfl⟩

instance : Inhabited Binary64 := ⟨zero false⟩

/-- The same number with the given sign. -/
def withSign (negative : Bool) (x : Binary64) : Binary64 :=
  { x with negative := negative }

/-- The absolute value in units of 2^-1074. -/
def units (x : Binary64) : Nat :=
  x.mantissa * Nat.pow 2 x.exponent

def isZero (x : Binary64) : Bool :=
  x.mantissa == 0

/-- The number with this mantissa and exponent, when they are those of a finite number. -/
def ofParts? (negative : Bool) (mantissa exponent : Nat) : Option Binary64 :=
  if h : mantissa < Nat.pow 2 53 ∧ exponent ≤ 2045 ∧ (exponent = 0 ∨ Nat.pow 2 52 ≤ mantissa) then
    some ⟨negative, mantissa, exponent, h.1, h.2.1, h.2.2⟩
  else none

/-- The quotient rounded to the nearest whole number, a half going to the even one. -/
def divideToEven (num den : Nat) : Nat :=
  let q := num / den
  let r := num % den
  if 2 * r > den ∨ (2 * r = den ∧ q % 2 = 1) then q + 1 else q

/-- The exponent at which a quotient of units has a mantissa of at most 53 bits. -/
def exponentFor (num den : Nat) : Nat :=
  let q := num / den
  if q = 0 then 0 else Nat.log2 q + 1 - 53

/-- The nearest number to `num / den` units; none when it is too large. -/
def roundUnits? (negative : Bool) (num den : Nat) : Option Binary64 :=
  let e := exponentFor num den
  let m := divideToEven num (den * Nat.pow 2 e)
  if m = Nat.pow 2 53 then ofParts? negative (Nat.pow 2 52) (e + 1) else ofParts? negative m e

/-- The nearest number to the fraction `num / den`; none when it is too large. -/
def ofFraction? (negative : Bool) (num den : Nat) : Option Binary64 :=
  roundUnits? negative (num * Nat.pow 2 1074) den

/-- The nearest number to a natural number. -/
def ofNat? (n : Nat) : Option Binary64 :=
  ofFraction? false n 1

/-- The rounded product of two absolute values, with the sign of the first. -/
def times? (x y : Binary64) : Option Binary64 :=
  roundUnits? x.negative (x.units * y.units) (Nat.pow 2 1074)

/-- The rounded quotient of two absolute values, with the sign of the first. -/
def over? (x y : Binary64) : Option Binary64 :=
  if y.isZero then none else roundUnits? x.negative (x.units * Nat.pow 2 1074) y.units

/-- The nearest number to a decimal with the given digits and exponent. Exponents beyond the
range of the format are answered without computing the power; `length` is at least the number of
digits. -/
def ofDecimal? (negative : Bool) (digits : Nat) (exponent : Int) : Option Binary64 :=
  if digits = 0 then some (zero negative)
  else
    let length : Int := Nat.log2 digits / 3 + 1
    if exponent > 400 then none
    else if exponent + length < -400 then some (zero negative)
    else if 0 ≤ exponent then ofFraction? negative (digits * Nat.pow 10 exponent.toNat) 1
    else ofFraction? negative digits (Nat.pow 10 (-exponent).toNat)

end Binary64

end ColumnSelection.Numeric
