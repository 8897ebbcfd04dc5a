import Mathlib.Algebra.Group.Nat.Defs
import Recurrence.Proofs.Text.IntegerText

namespace Recurrence.Text

/-!
# Numbers of a fixed width

Digits of the same width are ordered as texts just as the numbers that they write.
So a text of digits is determined by its width and its number, and it is what the
number gives when filled up with zeros to that width.
-/

/-- A text consists of ASCII digits. -/
def AllDigits (text : List Char) : Prop :=
  ∀ c ∈ text, c.isDigit = true

section Digits

variable {c other : Char}

theorem digit_bounds
    (isDigit : c.isDigit = true) :
    '0'.toNat ≤ c.toNat ∧ c.toNat - '0'.toNat < 10 := by
  have bounds := Char.isDigit_iff_toNat.mp isDigit
  have low : '0'.toNat = 48 := rfl
  have high : '9'.toNat = 57 := rfl
  omega

/-- Digits with the same value are the same. -/
theorem digit_eq_iff
    (isDigit : c.isDigit = true)
    (otherDigit : other.isDigit = true) :
    c = other ↔ c.toNat - '0'.toNat = other.toNat - '0'.toNat := by
  have bounds := digit_bounds isDigit
  have otherBounds := digit_bounds otherDigit
  rw [← Char.toNat_inj]
  omega

/-- Digits are ordered by their values. -/
theorem digit_lt_iff
    (isDigit : c.isDigit = true)
    (otherDigit : other.isDigit = true) :
    c < other ↔ c.toNat - '0'.toNat < other.toNat - '0'.toNat := by
  have bounds := digit_bounds isDigit
  have otherBounds := digit_bounds otherDigit
  show c.toNat < other.toNat ↔ _
  omega

end Digits

section Numbers

variable {c : Char} {digits others : List Char}

theorem AllDigits.head
    (allDigits : AllDigits (c :: digits)) :
    c.isDigit = true :=
  allDigits c List.mem_cons_self

theorem AllDigits.tail
    (allDigits : AllDigits (c :: digits)) :
    AllDigits digits :=
  fun digit member => allDigits digit (List.mem_cons_of_mem c member)

theorem allDigits_append :
    AllDigits (digits ++ others) ↔ AllDigits digits ∧ AllDigits others :=
  List.forall_mem_append

/-- The number of digits in two parts. -/
theorem naturalOfDigits_append
    (digits others : List Char) :
    naturalOfDigits (digits ++ others) =
      10 ^ others.length * naturalOfDigits digits + naturalOfDigits others := by
  rw [naturalOfDigits, Nat.ofDigitChars_append, Nat.ofDigitChars_eq_ofDigitChars_zero]
  rfl

theorem naturalOfDigits_cons
    (c : Char)
    (digits : List Char) :
    naturalOfDigits (c :: digits) =
      10 ^ digits.length * (c.toNat - '0'.toNat) + naturalOfDigits digits := by
  rw [naturalOfDigits, Nat.ofDigitChars_cons, Nat.ofDigitChars_eq_ofDigitChars_zero,
    Nat.mul_zero, Nat.zero_add]
  rfl

theorem naturalOfDigits_singleton
    (c : Char) :
    naturalOfDigits [c] = c.toNat - '0'.toNat :=
  Nat.zero_add _

theorem naturalOfDigits_pair
    (c other : Char) :
    naturalOfDigits [c, other] = 10 * (c.toNat - '0'.toNat) + (other.toNat - '0'.toNat) := by
  rw [naturalOfDigits_cons, naturalOfDigits_singleton]
  rfl

/-- A number of some digits is below the power of ten for their count. -/
theorem naturalOfDigits_lt
    (allDigits : AllDigits digits) :
    naturalOfDigits digits < 10 ^ digits.length := by
  induction digits with
  | nil => decide
  | cons c rest inductionHypothesis =>
      have value := (digit_bounds allDigits.head).2
      have below := inductionHypothesis allDigits.tail
      calc
        naturalOfDigits (c :: rest) =
            10 ^ rest.length * (c.toNat - '0'.toNat) + naturalOfDigits rest :=
          naturalOfDigits_cons c rest
        _ < 10 ^ rest.length * (c.toNat - '0'.toNat) + 10 ^ rest.length := by omega
        _ = 10 ^ rest.length * (c.toNat - '0'.toNat + 1) := (Nat.mul_succ _ _).symm
        _ ≤ 10 ^ rest.length * 10 := Nat.mul_le_mul_left _ value
        _ = 10 ^ (c :: rest).length := (Nat.pow_succ ..).symm

/-- Numbers of the same width are compared by their first digits, then by the rest. -/
private theorem leading_digit_decides
    {width first second firstRest secondRest : Nat}
    (firstBelow : firstRest < width)
    (secondBelow : secondRest < width) :
    width * first + firstRest < width * second + secondRest ↔
      first < second ∨ first = second ∧ firstRest < secondRest := by
  rcases Nat.lt_trichotomy first second with less | same | greater
  · have gap : width * (first + 1) ≤ width * second := Nat.mul_le_mul_left width less
    rw [Nat.mul_succ] at gap
    omega
  · subst same
    omega
  · have gap : width * (second + 1) ≤ width * first := Nat.mul_le_mul_left width greater
    rw [Nat.mul_succ] at gap
    omega

/-- Digits of the same width are ordered like their numbers. -/
theorem lt_iff_naturalOfDigits_lt
    (allDigits : AllDigits digits)
    (allOthers : AllDigits others)
    (sameWidth : digits.length = others.length) :
    digits < others ↔ naturalOfDigits digits < naturalOfDigits others := by
  induction digits generalizing others with
  | nil =>
      rw [List.eq_nil_of_length_eq_zero sameWidth.symm]
      simp
  | cons c rest inductionHypothesis =>
      cases others with
      | nil => cases sameWidth
      | cons other otherRest =>
          have restWidth : rest.length = otherRest.length := Nat.succ.inj sameWidth
          have restBelow := naturalOfDigits_lt allDigits.tail
          have otherBelow := naturalOfDigits_lt allOthers.tail
          rw [← restWidth] at otherBelow
          rw [List.cons_lt_cons_iff, digit_lt_iff allDigits.head allOthers.head,
            digit_eq_iff allDigits.head allOthers.head,
            inductionHypothesis allDigits.tail allOthers.tail restWidth,
            naturalOfDigits_cons, naturalOfDigits_cons, ← restWidth,
            leading_digit_decides restBelow otherBelow]

/-- Digits of the same width with the same number are the same. -/
theorem eq_of_naturalOfDigits_eq
    (allDigits : AllDigits digits)
    (allOthers : AllDigits others)
    (sameWidth : digits.length = others.length)
    (sameNumber : naturalOfDigits digits = naturalOfDigits others) :
    digits = others := by
  have notLess : ¬ digits < others := by
    rw [lt_iff_naturalOfDigits_lt allDigits allOthers sameWidth]
    omega
  have notGreater : ¬ others < digits := by
    rw [lt_iff_naturalOfDigits_lt allOthers allDigits sameWidth.symm]
    omega
  exact List.le_antisymm (List.not_lt.mp notGreater) (List.not_lt.mp notLess)

end Numbers

section Padding

variable {width number : Nat}

theorem allDigits_paddedText
    (width number : Nat) :
    AllDigits (paddedText width number) := by
  intro c member
  rw [paddedText, List.leftpad, List.mem_append] at member
  rcases member with inZeros | inNumber
  · rw [List.eq_of_mem_replicate inZeros]
    decide
  · exact isDigit_of_mem_naturalText inNumber

/-- A number is read back from its digits, leading zeros or not. -/
theorem naturalOfDigits_paddedText
    (width number : Nat) :
    naturalOfDigits (paddedText width number) = number := by
  rw [paddedText, List.leftpad, naturalOfDigits_append, naturalOfDigits_naturalText,
    naturalOfDigits, Nat.ofDigitChars_replicate_zero]
  simp

/-- A number that fits has exactly the given width. -/
theorem length_paddedText
    (positive : 0 < width)
    (fits : number < 10 ^ width) :
    (paddedText width number).length = width := by
  have atMost : (naturalText number).length ≤ width :=
    (Nat.length_toDigits_le_iff (by decide) positive).mpr fits
  rw [paddedText, List.length_leftpad]
  omega

/-- Digits are their number, filled up with zeros to their width. -/
theorem paddedText_naturalOfDigits
    {digits : List Char}
    (allDigits : AllDigits digits)
    (positive : 0 < digits.length) :
    paddedText digits.length (naturalOfDigits digits) = digits :=
  eq_of_naturalOfDigits_eq (allDigits_paddedText _ _) allDigits
    (length_paddedText positive (naturalOfDigits_lt allDigits))
    (naturalOfDigits_paddedText _ _)

end Padding

end Recurrence.Text
