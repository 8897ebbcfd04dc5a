import Recurrence.Text.Blank

namespace Recurrence.Text

/-!
# Decimal integers

An integer is written as an optional sign and ASCII digits.  Texts of more than
`maxDigits` digits are well formed, but too long to be read; the sign does not
count, leading zeros do.
-/

/-- The most digits an integer text may have. -/
def maxDigits : Nat := 4300

/-- An integer text with more digits than may be read. -/
structure Oversized where
  digits : Nat
  deriving Repr, DecidableEq

/-- The complaint about an integer text that is too long. -/
def Oversized.message (number : Oversized) : String :=
  s!"Exceeds the limit ({maxDigits} digits) for integer string conversion: " ++
    s!"value has {number.digits} digits; " ++
    "use sys.set_int_max_str_digits() to increase the limit"

/-- What a whole text says as a decimal integer. -/
inductive Numeral where
  | malformed
  | oversized (number : Oversized)
  | value (integer : Int)
  deriving Repr, DecidableEq

/-- The number that a list of ASCII digits writes. -/
def naturalOfDigits (digits : List Char) : Nat :=
  Nat.ofDigitChars 10 digits 0

/-- A sign, or none, split off a text: whether it is a minus, and what follows. -/
def splitSign : List Char → Bool × List Char
  | '-' :: rest => (true, rest)
  | '+' :: rest => (false, rest)
  | text => (false, text)

/-- The number of the given sign and size. -/
def signed (negative : Bool) (size : Nat) : Int :=
  if negative then -(size : Int) else size

/-- Reads a whole text as an optional sign and at least one ASCII digit. -/
def Numeral.ofText (text : List Char) : Numeral :=
  let (negative, digits) := splitSign text
  if digits.isEmpty || !digits.all Char.isDigit then
    .malformed
  else if maxDigits < digits.length then
    .oversized ⟨digits.length⟩
  else
    .value (signed negative (naturalOfDigits digits))

/-- The decimal digits of a natural number. -/
def naturalText (number : Nat) : List Char :=
  Nat.toDigits 10 number

/-- An integer in decimal, with a minus sign if it is negative. -/
def integerText (integer : Int) : List Char :=
  if integer < 0 then
    '-' :: naturalText integer.natAbs
  else
    naturalText integer.natAbs

/-- The decimal digits of a number, filled up with leading zeros to `width`. -/
def paddedText (width : Nat) (number : Nat) : List Char :=
  (naturalText number).leftpad width '0'

/-- Reading the digits of a number gives the number. -/
theorem naturalOfDigits_naturalText
    (number : Nat) :
    naturalOfDigits (naturalText number) = number :=
  Nat.ofDigitChars_toDigits (by decide) (by decide)

/-- The text of a number consists of digits. -/
theorem isDigit_of_mem_naturalText
    {number : Nat}
    {c : Char}
    (member : c ∈ naturalText number) :
    c.isDigit = true :=
  Nat.isDigit_of_mem_toDigits (by decide) (by decide) member

/-- The text of a number is not empty. -/
theorem naturalText_ne_nil
    (number : Nat) :
    naturalText number ≠ [] := by
  rw [naturalText, Nat.toDigits_eq_if (by decide)]
  split <;> simp

end Recurrence.Text
