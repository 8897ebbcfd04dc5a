namespace Recurrence

/-!
# Double precision numbers

A finite number is `mantissa * 2 ^ exponent` with a sign.  Mantissas stay below
`2 ^ 53` and exponents at or above `-1074`; the mantissa reaches `2 ^ 52` unless
the exponent is the least one, so every number has one form.  A decimal is read
by rounding its exact value to the nearest number, a half to the even mantissa.
-/

/-- A double precision number, infinities and the undefined number included. -/
inductive Binary64 where
  | notANumber
  | infinite (negative : Bool)
  | finite (negative : Bool) (mantissa : Nat) (exponent : Int)
  deriving Repr, DecidableEq

namespace Binary64

/-- A power of two. -/
def twoTo (exponent : Nat) : Nat :=
  Nat.pow 2 exponent

/-- A power of ten. -/
def tenTo (exponent : Nat) : Nat :=
  Nat.pow 10 exponent

/-- The bound of all mantissas. -/
def mantissaBound : Nat :=
  twoTo 53

/-- The least mantissa of a number whose exponent is not the least one. -/
def leastFullMantissa : Nat :=
  twoTo 52

/-- The least exponent of a finite number. -/
def leastExponent : Int := -1074

/-- The greatest exponent of a finite number. -/
def greatestExponent : Int := 971

/-- The quotient rounded to the nearest whole number, a half to the even one. -/
def roundQuotient (dividend divisor : Nat) : Nat :=
  let quotient := dividend / divisor
  let twiceRest := 2 * (dividend % divisor)
  if divisor < twiceRest || (divisor == twiceRest && quotient % 2 == 1) then
    quotient + 1
  else
    quotient

/-- The quotient of `dividend / divisor` and a power of two, as a fraction. -/
def scaleDown (dividend divisor : Nat) (exponent : Int) : Nat × Nat :=
  (dividend * twoTo (-exponent).toNat, divisor * twoTo exponent.toNat)

/-- The exponent at which the mantissa of a positive fraction has 53 binary digits. -/
def exponentOf (dividend divisor : Nat) : Int :=
  let estimate : Int := (dividend.log2 : Int) - divisor.log2 - 52
  let (scaled, unit) := scaleDown dividend divisor estimate
  let exact := if scaled / unit < leastFullMantissa then estimate - 1 else estimate
  max leastExponent exact

/-- The number nearest to a positive fraction. -/
def ofFraction (negative : Bool) (dividend divisor : Nat) : Binary64 :=
  let exponent := exponentOf dividend divisor
  let (scaled, unit) := scaleDown dividend divisor exponent
  let rounded := roundQuotient scaled unit
  let (mantissa, exponent) :=
    if rounded = mantissaBound then (leastFullMantissa, exponent + 1) else (rounded, exponent)
  if greatestExponent < exponent then
    .infinite negative
  else
    .finite negative mantissa exponent

/-- The zero of the given sign. -/
def zero (negative : Bool) : Binary64 :=
  .finite negative 0 leastExponent

/--
The number nearest to `digits * 10 ^ exponent`.  Decimals of a size that no
finite number reaches are settled by their size alone.
-/
def ofDecimal (negative : Bool) (digits : Nat) (exponent : Int) : Binary64 :=
  let size : Int := (Nat.toDigits 10 digits).length + exponent
  if digits = 0 then
    zero negative
  else if 310 < size then
    .infinite negative
  else if size < -330 then
    zero negative
  else
    ofFraction negative (digits * tenTo exponent.toNat) (tenTo (-exponent).toNat)

end Binary64

end Recurrence
