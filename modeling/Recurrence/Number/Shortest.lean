import Recurrence.Number.Binary64

namespace Recurrence

/-!
# The shortest decimal of a number

A decimal reads back as a number when it lies between the points half way to the
number's two neighbours, those points included for an even mantissa.  For one,
two, and up to seventeen digits the two decimals of that many digits next to the
number are tried; the first count with a decimal that reads back wins, and of
two such decimals the nearer one, the even one if both are as near.
-/

/-- The decimal number `digits * 10 ^ exponent`. -/
structure Decimal where
  digits : Nat
  exponent : Int
  deriving Repr, DecidableEq

namespace Binary64

/-- `digits * 10 ^ exponent`, in a unit that it shares with `binaryUnits`. -/
def decimalUnits (digits : Nat) (exponent binaryExponent : Int) : Nat :=
  digits * tenTo exponent.toNat * twoTo (-binaryExponent).toNat

/-- `mantissa * 2 ^ exponent`, in a unit that it shares with `decimalUnits`. -/
def binaryUnits (mantissa : Nat) (exponent decimalExponent : Int) : Nat :=
  mantissa * twoTo exponent.toNat * tenTo (-decimalExponent).toNat

/--
Whether a decimal reads back as `mantissa * 2 ^ exponent`.  The half way points
are whole multiples of a quarter of the last binary place.
-/
def readsBack (mantissa : Nat) (exponent : Int) (decimal : Decimal) : Bool :=
  let below := if mantissa = leastFullMantissa && leastExponent < exponent then 1 else 2
  let low := binaryUnits (4 * mantissa - below) (exponent - 2) decimal.exponent
  let high := binaryUnits (4 * mantissa + 2) (exponent - 2) decimal.exponent
  let value := decimalUnits decimal.digits decimal.exponent (exponent - 2)
  if mantissa % 2 = 0 then
    low ≤ value && value ≤ high
  else
    low < value && value < high

/-- The count of decimal places before the point of a positive number; zero or negative below 0.1. -/
def decimalPlaces (mantissa : Nat) (exponent : Int) : Int :=
  let shifted := mantissa * tenTo 340 * twoTo exponent.toNat / twoTo (-exponent).toNat
  (Nat.toDigits 10 shifted).length - 340

/-- The best decimal of `count` digits that reads back as the number, if there is one. -/
def decimalOfLength? (mantissa : Nat) (exponent : Int) (count : Nat) : Option Decimal :=
  let place : Int := decimalPlaces mantissa exponent - count
  let unit := decimalUnits 1 place exponent
  let value := binaryUnits mantissa exponent place
  let below : Decimal := ⟨value / unit, place⟩
  let above : Decimal := ⟨value / unit + 1, place⟩
  let rest := value % unit
  let preferAbove := unit < 2 * rest || (unit == 2 * rest && below.digits % 2 == 1)
  match readsBack mantissa exponent below, readsBack mantissa exponent above with
  | true, true => some (if preferAbove then above else below)
  | true, false => some below
  | false, true => some above
  | false, false => none

/-- The shortest decimal that reads back as a positive number. -/
def shortest (mantissa : Nat) (exponent : Int) : Decimal :=
  ((List.range' 1 17).findSome? (decimalOfLength? mantissa exponent)).getD ⟨0, 0⟩

end Binary64

end Recurrence
