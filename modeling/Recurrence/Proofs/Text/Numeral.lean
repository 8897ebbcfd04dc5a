import Recurrence.Proofs.Text.IntegerText
import Recurrence.Rule.Grammar

namespace Recurrence.Text

/-!
# Reading integers

Reading a text as an integer gives exactly what the text is: a short integer with
its value, an integer with too many digits, or no integer at all.  A text is one of
these in one way only.
-/

theorem isNumber_iff
    {digits : List Char} :
    IsNumber digits ↔ (digits.isEmpty || !digits.all Char.isDigit) = false := by
  rw [Bool.or_eq_false_iff, List.isEmpty_eq_false_iff, Bool.not_eq_false', List.all_eq_true]
  exact ⟨fun number => ⟨number.nonempty, number.allDigits⟩, fun valid => ⟨valid.1, valid.2⟩⟩

/-- A text is signed digits exactly if digits are what follows its sign. -/
theorem signedDigits_iff
    {text digits : List Char}
    {value : Int} :
    SignedDigits text digits value ↔
      IsNumber digits ∧ ∃ negative, splitSign text = (negative, digits) ∧
        value = signed negative (naturalOfDigits digits) := by
  constructor
  · intro written
    cases written with
    | unsigned number => exact ⟨number, false, splitSign_of_digits number.allDigits, rfl⟩
    | plus number => exact ⟨number, false, rfl, rfl⟩
    | minus number => exact ⟨number, true, rfl, rfl⟩
  · rintro ⟨number, negative, shape, rfl⟩
    unfold splitSign at shape
    split at shape
    · obtain ⟨rfl, rfl⟩ := Prod.mk.inj shape
      exact .minus number
    · obtain ⟨rfl, rfl⟩ := Prod.mk.inj shape
      exact .plus number
    · obtain ⟨rfl, rfl⟩ := Prod.mk.inj shape
      exact .unsigned number

/-- A text has at most one value. -/
theorem IsInteger.unique
    {text : List Char}
    {value other : Int}
    (hasValue : IsInteger text value)
    (hasOther : IsInteger text other) :
    value = other := by
  obtain ⟨digits, written⟩ := hasValue
  obtain ⟨otherDigits, otherWritten⟩ := hasOther
  obtain ⟨_, negative, shape, rfl⟩ := signedDigits_iff.mp written
  obtain ⟨_, otherNegative, otherShape, rfl⟩ := signedDigits_iff.mp otherWritten
  obtain ⟨rfl, rfl⟩ := Prod.mk.inj (shape.symm.trans otherShape)
  rfl

theorem IsShortInteger.isInteger
    {text : List Char}
    {value : Int}
    (short : IsShortInteger text value) :
    IsInteger text value := by
  obtain ⟨digits, written, _⟩ := short
  exact ⟨digits, written⟩

/-- An integer is short unless it is oversized. -/
theorem IsInteger.isShortInteger
    {text : List Char}
    {value : Int}
    (integer : IsInteger text value)
    (fits : ∀ number, ¬ IsOversized text number) :
    IsShortInteger text value := by
  obtain ⟨digits, written⟩ := integer
  refine ⟨digits, written, Nat.not_lt.mp fun long => ?_⟩
  exact fits ⟨digits.length⟩ ⟨digits, value, written, long, rfl⟩

theorem IsOversized.exists_isInteger
    {text : List Char}
    {number : Oversized}
    (oversized : IsOversized text number) :
    ∃ value, IsInteger text value := by
  obtain ⟨digits, value, written, _⟩ := oversized
  exact ⟨value, digits, written⟩

theorem SignedDigits.length_le
    {text digits : List Char}
    {value : Int}
    (written : SignedDigits text digits value) :
    digits.length ≤ text.length := by
  cases written with
  | unsigned => exact Nat.le_refl _
  | plus => exact Nat.le_succ _
  | minus => exact Nat.le_succ _

/-- Integers are made of digits after a sign. -/
theorem SignedDigits.eq_plus_or_isIntegerChar
    {text digits : List Char}
    {value : Int}
    (written : SignedDigits text digits value)
    {c : Char}
    (member : c ∈ text) :
    c = '+' ∨ IsIntegerChar c := by
  cases written with
  | unsigned number => exact Or.inr (Or.inr (number.allDigits c member))
  | plus number =>
      rcases List.mem_cons.mp member with isSign | inDigits
      · exact Or.inl isSign
      · exact Or.inr (Or.inr (number.allDigits c inDigits))
  | minus number =>
      rcases List.mem_cons.mp member with isSign | inDigits
      · exact Or.inr (Or.inl isSign)
      · exact Or.inr (Or.inr (number.allDigits c inDigits))

/-- An integer has no comma in it. -/
theorem IsInteger.comma_not_mem
    {text : List Char}
    {value : Int}
    (integer : IsInteger text value) :
    ',' ∉ text := by
  obtain ⟨digits, written⟩ := integer
  intro member
  exact absurd (written.eq_plus_or_isIntegerChar member) (by decide)

/-- An integer has no white space around it. -/
theorem IsInteger.trim_eq
    {text : List Char}
    {value : Int}
    (integer : IsInteger text value) :
    trim text = text := by
  obtain ⟨digits, written⟩ := integer
  have dark : ∀ c ∈ text, isBlank c = false := by
    intro c member
    rcases written.eq_plus_or_isIntegerChar member with isSign | inInteger
    · rw [isSign]
      decide
    · exact isBlank_eq_false_of_isIntegerChar inInteger
  apply trim_eq_self
  · intro c first
    exact dark c (List.mem_of_mem_head? first)
  · intro c last
    exact dark c (List.mem_of_mem_getLast? last)

namespace Numeral

/-- A text is no integer exactly if no digits follow its sign. -/
theorem ofText_eq_malformed_iff
    {text : List Char} :
    ofText text = .malformed ↔ ∀ value, ¬ IsInteger text value := by
  cases shape : splitSign text with
  | mk negative digits =>
      rw [ofText, shape]
      constructor
      · rintro malformed value ⟨others, written⟩
        obtain ⟨number, _, otherShape, _⟩ := signedDigits_iff.mp written
        obtain ⟨rfl, rfl⟩ := Prod.mk.inj (shape.symm.trans otherShape)
        simp only [isNumber_iff.mp number, Bool.false_eq_true, ↓reduceIte] at malformed
        split at malformed
        · cases malformed
        · cases malformed
      · intro noInteger
        have notNumber : ¬ IsNumber digits := fun number =>
          noInteger _ ⟨digits, signedDigits_iff.mpr ⟨number, negative, shape, rfl⟩⟩
        rw [isNumber_iff, Bool.not_eq_false] at notNumber
        exact if_pos notNumber

/-- An integer is read as its value, unless it has too many digits. -/
theorem ofText_of_signedDigits
    {text digits : List Char}
    {value : Int}
    (written : SignedDigits text digits value) :
    ofText text =
      if maxDigits < digits.length then .oversized ⟨digits.length⟩ else .value value := by
  obtain ⟨number, negative, shape, rfl⟩ := signedDigits_iff.mp written
  rw [ofText, shape]
  simp only [isNumber_iff.mp number, Bool.false_eq_true, ↓reduceIte]

/-- What is not read as malformed is an integer. -/
theorem exists_signedDigits
    {text : List Char}
    (wellFormed : ofText text ≠ .malformed) :
    ∃ digits value, SignedDigits text digits value := by
  by_contra none
  refine wellFormed (ofText_eq_malformed_iff.mpr ?_)
  rintro value ⟨digits, written⟩
  exact none ⟨digits, value, written⟩

/-- A text is read as a value exactly if it is a short integer with that value. -/
theorem ofText_eq_value_iff
    {text : List Char}
    {value : Int} :
    ofText text = .value value ↔ IsShortInteger text value := by
  constructor
  · intro found
    have wellFormed : ofText text ≠ .malformed := by simp [found]
    obtain ⟨digits, integer, written⟩ := exists_signedDigits wellFormed
    rw [ofText_of_signedDigits written] at found
    split at found
    · cases found
    · rename_i short
      cases found
      exact ⟨digits, written, Nat.not_lt.mp short⟩
  · rintro ⟨digits, written, short⟩
    rw [ofText_of_signedDigits written, if_neg (Nat.not_lt.mpr short)]

/-- A text is read as too long exactly if it is an integer with too many digits. -/
theorem ofText_eq_oversized_iff
    {text : List Char}
    {number : Oversized} :
    ofText text = .oversized number ↔ IsOversized text number := by
  constructor
  · intro found
    have wellFormed : ofText text ≠ .malformed := by simp [found]
    obtain ⟨digits, integer, written⟩ := exists_signedDigits wellFormed
    rw [ofText_of_signedDigits written] at found
    split at found
    · rename_i long
      cases found
      exact ⟨digits, integer, written, long, rfl⟩
    · cases found
  · rintro ⟨digits, value, written, long, rfl⟩
    rw [ofText_of_signedDigits written, if_pos long]

end Numeral

end Recurrence.Text
