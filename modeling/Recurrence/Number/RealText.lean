import Recurrence.Number.Shortest
import Recurrence.Text.Integer

namespace Recurrence

/-!
# Writing numbers

A finite number is written with its shortest decimal: in positional notation
while the exponent of its first digit lies within the bounds of the style, and
with a power of ten of at least two digits otherwise.  A whole number in
positional notation keeps `.0`, and zero keeps its sign.
-/

/-- What a style decides about the text of a number. -/
structure RealStyle where
  leastPositional : Int
  greatestPositional : Int
  notANumber : String
  infinity : String

/-- The style of plain text: positional from 0.0001 to below 10 ^ 16. -/
def RealStyle.plain : RealStyle :=
  ⟨-4, 15, "nan", "inf"⟩

/-- The style of JSON documents, which differs in the names alone. -/
def RealStyle.json : RealStyle :=
  ⟨-4, 15, "NaN", "Infinity"⟩

namespace Binary64

/-- Digits with the point after `places` of them, in positional notation. -/
def positionalText (digits : List Char) (places : Int) : List Char :=
  if places ≤ 0 then
    "0.".toList ++ List.replicate (-places).toNat '0' ++ digits
  else if digits.length ≤ places.toNat then
    digits ++ List.replicate (places.toNat - digits.length) '0' ++ ".0".toList
  else
    digits.take places.toNat ++ '.' :: digits.drop places.toNat

/-- Digits with the point after the first one, times a power of ten. -/
def scientificText (digits : List Char) (exponent : Int) : List Char :=
  let fraction := digits.drop 1
  let point := if fraction.isEmpty then [] else ['.']
  let sign := if exponent < 0 then '-' else '+'
  digits.take 1 ++ point ++ fraction ++ 'e' :: sign :: Text.paddedText 2 exponent.natAbs

/-- Digits without zeros at the end, but at least one digit. -/
def significantDigits : List Char → List Char
  | [] => []
  | first :: rest => first :: (rest.reverse.dropWhile (· == '0')).reverse

/-- The text of a positive number. -/
def positiveText (style : RealStyle) (mantissa : Nat) (exponent : Int) : List Char :=
  let decimal := shortest mantissa exponent
  let allDigits := Text.naturalText decimal.digits
  let digits := significantDigits allDigits
  let places : Int := allDigits.length + decimal.exponent
  if style.leastPositional ≤ places - 1 && places - 1 ≤ style.greatestPositional then
    positionalText digits places
  else
    scientificText digits (places - 1)

/-- The text of a number. -/
def text (style : RealStyle) : Binary64 → List Char
  | .notANumber => style.notANumber.toList
  | .infinite negative => (if negative then ['-'] else []) ++ style.infinity.toList
  | .finite negative mantissa exponent =>
      (if negative then ['-'] else []) ++
        if mantissa = 0 then "0.0".toList else positiveText style mantissa exponent

end Binary64

end Recurrence
