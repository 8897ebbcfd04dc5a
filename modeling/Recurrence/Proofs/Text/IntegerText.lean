import Recurrence.Text.Integer
import Recurrence.Text.Split

namespace Recurrence.Text

/-!
# Integers written and read

The text of an integer is digits, after a minus sign if it is negative.  It is
read back as the integer, and it holds neither white space nor any character that
separates the parts of a rule text.
-/

/-- The characters of integer texts. -/
def IsIntegerChar (c : Char) : Prop :=
  c = '-' ∨ c.isDigit = true

instance (c : Char) : Decidable (IsIntegerChar c) :=
  inferInstanceAs (Decidable (_ ∨ _))

/-- An integer text consists of its characters. -/
theorem isIntegerChar_of_mem_integerText
    {integer : Int}
    {c : Char}
    (member : c ∈ integerText integer) :
    IsIntegerChar c := by
  rw [integerText] at member
  split at member
  · rcases List.mem_cons.mp member with isSign | inDigits
    · exact Or.inl isSign
    · exact Or.inr (isDigit_of_mem_naturalText inDigits)
  · exact Or.inr (isDigit_of_mem_naturalText member)

theorem not_mem_integerText
    {c : Char}
    (foreign : ¬ IsIntegerChar c)
    (integer : Int) :
    c ∉ integerText integer :=
  fun member => foreign (isIntegerChar_of_mem_integerText member)

/-- No character of an integer text is white space. -/
theorem isBlank_eq_false_of_isIntegerChar
    {c : Char}
    (inInteger : IsIntegerChar c) :
    isBlank c = false := by
  rcases inInteger with isSign | isDigit
  · rw [isSign]
    decide
  · have bounds := Char.isDigit_iff_toNat.mp isDigit
    have low : '0'.toNat = 48 := rfl
    have high : '9'.toNat = 57 := rfl
    simp only [isBlank, blankRanges, List.any_cons, List.any_nil, Bool.or_false,
      Bool.or_eq_false_iff, Bool.and_eq_false_iff, decide_eq_false_iff_not]
    omega

/-- An integer text has no white space around it. -/
theorem trim_integerText
    (integer : Int) :
    trim (integerText integer) = integerText integer := by
  apply trim_eq_self
  · intro c first
    exact isBlank_eq_false_of_isIntegerChar
      (isIntegerChar_of_mem_integerText (List.mem_of_mem_head? first))
  · intro c last
    exact isBlank_eq_false_of_isIntegerChar
      (isIntegerChar_of_mem_integerText (List.mem_of_mem_getLast? last))

theorem splitSign_of_digits
    {digits : List Char}
    (allDigits : ∀ c ∈ digits, c.isDigit = true) :
    splitSign digits = (false, digits) := by
  cases digits with
  | nil => rfl
  | cons c rest =>
      have isDigit := allDigits c (by simp)
      have notMinus : c ≠ '-' := by
        rintro rfl
        exact absurd isDigit (by decide)
      have notPlus : c ≠ '+' := by
        rintro rfl
        exact absurd isDigit (by decide)
      unfold splitSign
      split
      · rename_i shape
        exact absurd (List.cons.inj shape).1 notMinus
      · rename_i shape
        exact absurd (List.cons.inj shape).1 notPlus
      · rfl

/-- A sign and the digits of a number are read as the number with that sign. -/
theorem Numeral.ofText_of_splitSign
    {text : List Char}
    {negative : Bool}
    {number : Nat}
    (shape : splitSign text = (negative, naturalText number))
    (short : (naturalText number).length ≤ maxDigits) :
    Numeral.ofText text = .value (signed negative number) := by
  have given : (naturalText number).isEmpty = false := by
    simpa using naturalText_ne_nil number
  have allDigits : (naturalText number).all Char.isDigit = true :=
    List.all_eq_true.mpr fun _ member => isDigit_of_mem_naturalText member
  rw [ofText, shape]
  simp only [given, allDigits, Bool.not_true, Bool.or_self, Bool.false_eq_true, ↓reduceIte,
    Nat.not_lt.mpr short, naturalOfDigits_naturalText]

/-- An integer is read back from its text, unless it has too many digits. -/
theorem Numeral.ofText_integerText
    {integer : Int}
    (short : (naturalText integer.natAbs).length ≤ maxDigits) :
    Numeral.ofText (integerText integer) = .value integer := by
  rw [integerText]
  split
  · rw [Numeral.ofText_of_splitSign rfl short, signed, if_pos rfl]
    exact congrArg Numeral.value (by omega)
  · have noSign :
        splitSign (naturalText integer.natAbs) = (false, naturalText integer.natAbs) :=
      splitSign_of_digits fun _ member => isDigit_of_mem_naturalText member
    rw [Numeral.ofText_of_splitSign noSign short, signed, if_neg (by decide)]
    exact congrArg Numeral.value (by omega)

/-- An integer of up to three digits is not too long to be read. -/
theorem length_naturalText_le_maxDigits
    {number : Nat}
    (small : number < 1000) :
    (naturalText number).length ≤ maxDigits := by
  have threeDigits : (naturalText number).length ≤ 3 :=
    (Nat.length_toDigits_le_iff (by decide) (by decide)).mpr small
  exact Nat.le_trans threeDigits (by decide)

/-- A joined text has the characters of its pieces and the separator. -/
theorem mem_join
    {separator c : Char}
    {pieces : List (List Char)}
    (member : c ∈ join separator pieces) :
    c = separator ∨ ∃ piece ∈ pieces, c ∈ piece := by
  induction pieces with
  | nil => cases member
  | cons piece others inductionHypothesis =>
      cases others with
      | nil => exact Or.inr ⟨piece, by simp, member⟩
      | cons next more =>
          rw [join, List.mem_append, List.mem_cons] at member
          rcases member with inPiece | isSeparator | inRest
          · exact Or.inr ⟨piece, by simp, inPiece⟩
          · exact Or.inl isSeparator
          · rcases inductionHypothesis inRest with isSeparator | ⟨other, listed, inOther⟩
            · exact Or.inl isSeparator
            · exact Or.inr ⟨other, List.mem_cons_of_mem piece listed, inOther⟩

end Recurrence.Text
