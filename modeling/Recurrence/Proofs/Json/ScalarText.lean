import Recurrence.Json.Reader
import Recurrence.Json.Writer

namespace Recurrence.Json

/-!
# Numbers and words written and read again

A number has no mark at its end.  It is read as it was written if what follows cannot
be part of a number, and nothing that follows a value in a document can.
-/

/-- What can follow a value: a separator, a closing mark or white space. -/
def closesValue (c : Char) : Bool :=
  c == ',' || c == ']' || c == '\x7d' || isBlank c

/-- A value can end where a text begins. -/
def EndsValue (rest : List Char) : Prop :=
  ∀ c ∈ rest.head?, closesValue c = true

theorem endsValue_nil :
    EndsValue [] :=
  nofun

section Ends

variable {c : Char} {rest : List Char}

theorem endsValue_cons
    (closes : closesValue c = true) :
    EndsValue (c :: rest) := by
  intro first isFirst
  rwa [← Option.some.inj isFirst]

/-- What follows a value after white space can follow it at once. -/
theorem endsValue_blanks
    {blanks : List Char}
    (blank : ∀ c ∈ blanks, isBlank c = true)
    (ends : EndsValue rest) :
    EndsValue (blanks ++ rest) := by
  cases blanks with
  | nil =>
      exact ends
  | cons first others =>
      have firstBlank := blank first List.mem_cons_self
      exact endsValue_cons (by simp [closesValue, firstBlank])

/-- Whatever closes a value is no part of a number. -/
theorem not_number_of_closesValue
    (closes : closesValue c = true) :
    c.isDigit = false ∧ c ≠ '.' ∧ c ≠ 'e' ∧ c ≠ 'E' := by
  simp only [closesValue, isBlank, Bool.or_eq_true, beq_iff_eq] at closes
  rcases closes with ((rfl | rfl) | rfl) | (((rfl | rfl) | rfl) | rfl)
  all_goals decide

theorem readFraction_of_endsValue
    (ends : EndsValue rest) :
    readFraction rest = ([], rest) := by
  apply readFraction.eq_2
  rintro after rfl
  exact (not_number_of_closesValue (ends '.' rfl)).2.1 rfl

theorem readExponent_of_endsValue
    (ends : EndsValue rest) :
    readExponent rest = (none, rest) := by
  cases rest with
  | nil => rfl
  | cons c after =>
      obtain ⟨_, _, notSmall, notCapital⟩ := not_number_of_closesValue (ends c rfl)
      simp [readExponent, notSmall, notCapital]

/-- Digits are told apart from what follows them. -/
theorem spanDigits_of_endsValue
    {digits : List Char}
    (allDigits : ∀ c ∈ digits, c.isDigit = true)
    (ends : EndsValue rest) :
    spanDigits (digits ++ rest) = (digits, rest) := by
  have nothingMore : rest.takeWhile Char.isDigit = [] ∧ rest.dropWhile Char.isDigit = rest := by
    cases rest with
    | nil => exact ⟨rfl, rfl⟩
    | cons c after =>
        have notDigit := (not_number_of_closesValue (ends c rfl)).1
        simp [notDigit]
  rw [spanDigits, List.takeWhile_append_of_pos allDigits, List.dropWhile_append_of_pos allDigits,
    nothingMore.1, nothingMore.2, List.append_nil]

end Ends

section Numbers

variable {number : Nat} {rest : List Char}

/-- Only zero is written with a leading zero. -/
theorem naturalText_leading
    {number : Nat}
    (positive : number ≠ 0) :
    ∀ rest, Text.naturalText number ≠ '0' :: rest := by
  induction number using Nat.strongRecOn with
  | ind number inductionHypothesis =>
      intro rest
      rw [Text.naturalText, Nat.toDigits_eq_if (by decide)]
      split
      · rename_i single
        have nonzero : ∀ digit < 10, digit ≠ 0 → Nat.digitChar digit ≠ '0' := by decide
        intro same
        exact nonzero number single positive (List.cons.inj same).1
      · rename_i several
        have tenthPositive : number / 10 ≠ 0 := by omega
        have tenth := inductionHypothesis (number / 10) (by omega) tenthPositive
        intro same
        cases shape : Text.naturalText (number / 10) with
        | nil =>
            exact Text.naturalText_ne_nil (number / 10) shape
        | cons first others =>
            rw [← Text.naturalText, shape, List.cons_append] at same
            exact tenth others ((List.cons.inj same).1 ▸ shape)

theorem readWhole?_naturalText
    (number : Nat)
    (ends : EndsValue rest) :
    readWhole? (Text.naturalText number ++ rest) = some (Text.naturalText number, rest) := by
  have digits : ∀ c ∈ Text.naturalText number, c.isDigit = true :=
    fun _ => Text.isDigit_of_mem_naturalText
  by_cases zero : number = 0
  · rw [zero]
    rfl
  · have leading : ∀ after, Text.naturalText number ++ rest = '0' :: after → False := by
      intro after same
      cases shape : Text.naturalText number with
      | nil => exact Text.naturalText_ne_nil number shape
      | cons c others =>
          rw [shape, List.cons_append] at same
          exact naturalText_leading zero others ((List.cons.inj same).1 ▸ shape)
    have nonempty : (Text.naturalText number).isEmpty = false := by
      simp [Text.naturalText_ne_nil]
    rw [readWhole?.eq_2 _ leading, spanDigits_of_endsValue digits ends]
    simp [nonempty]

/-- A number is read without its sign. -/
theorem readUnsigned_naturalText
    (negative : Bool)
    (short : (Text.naturalText number).length ≤ Text.maxDigits)
    (ends : EndsValue rest) :
    readUnsigned negative (Text.naturalText number ++ rest) =
      .ok (.integer (Text.signed negative number), rest) := by
  rw [readUnsigned, readWhole?_naturalText number ends]
  simp only [readFraction_of_endsValue ends, readExponent_of_endsValue ends, List.isEmpty_nil,
    Option.isNone_none, Bool.and_self, ↓reduceIte, Nat.not_lt.mpr short,
    Text.naturalOfDigits_naturalText]

section Scalars

variable {text : List Char}

/-- What is no word and has no minus sign is read as a number without a sign. -/
theorem readScalar_of_unsigned
    (noWord : ∀ entry ∈ words, dropWord? entry.1 text = none)
    (noMinus : ∀ after, text = '-' :: after → False) :
    readScalar text = readUnsigned false text := by
  rw [readScalar, List.findSome?_eq_none_iff.mpr]
  · rintro ⟨word, value⟩ member
    simp only [noWord (word, value) member, Option.map_none]
  · exact noMinus

/-- A minus sign that begins no word is the sign of a number. -/
theorem readScalar_of_minus
    (noWord : ∀ entry ∈ words, dropWord? entry.1 ('-' :: text) = none) :
    readScalar ('-' :: text) = readUnsigned true text := by
  rw [readScalar, List.findSome?_eq_none_iff.mpr]
  rintro ⟨word, value⟩ member
  simp only [noWord (word, value) member, Option.map_none]

end Scalars

/-- No word begins like a number. -/
theorem readScalar_of_digit
    {c : Char}
    (digit : c.isDigit = true)
    (rest : List Char) :
    readScalar (c :: rest) = readUnsigned false (c :: rest) ∧
      readScalar ('-' :: c :: rest) = readUnsigned true (c :: rest) := by
  have notLetter (letter : Char) (noDigit : letter.isDigit = false) : letter ≠ c := by
    rintro rfl
    cases noDigit.symm.trans digit
  have notNull := notLetter 'n' (by decide)
  have notTrue := notLetter 't' (by decide)
  have notFalse := notLetter 'f' (by decide)
  have notNaN := notLetter 'N' (by decide)
  have notInfinity := notLetter 'I' (by decide)
  have notMinus := notLetter '-' (by decide)
  constructor
  · apply readScalar_of_unsigned
    · simp [words, dropWord?, notNull, notTrue, notFalse, notNaN, notInfinity, notMinus]
    · intro after same
      exact notMinus (List.cons.inj same).1.symm
  · apply readScalar_of_minus
    simp [words, dropWord?, notInfinity]

/-- An integer is read as the number that was written. -/
theorem readScalar_integerText
    {integer : Int}
    (short : (Text.naturalText integer.natAbs).length ≤ Text.maxDigits)
    (ends : EndsValue rest) :
    readScalar (Text.integerText integer ++ rest) = .ok (.integer integer, rest) := by
  have read (negative : Bool) := readUnsigned_naturalText negative short ends
  cases shape : Text.naturalText integer.natAbs with
  | nil =>
      exact absurd shape (Text.naturalText_ne_nil integer.natAbs)
  | cons first others =>
      have digit : first.isDigit = true :=
        Text.isDigit_of_mem_naturalText (shape ▸ List.mem_cons_self)
      obtain ⟨unsigned, signed⟩ := readScalar_of_digit digit (others ++ rest)
      rw [shape] at read
      unfold Text.integerText
      by_cases negative : integer < 0
      · have value : Text.signed true integer.natAbs = integer := by
          simp only [Text.signed, ↓reduceIte]
          omega
        rw [if_pos negative, shape, List.cons_append, List.cons_append, signed,
          ← List.cons_append, read, value]
      · have value : Text.signed false integer.natAbs = integer := by
          simp only [Text.signed, Bool.false_eq_true, ↓reduceIte]
          omega
        rw [if_neg negative, shape, List.cons_append, unsigned, ← List.cons_append, read, value]

end Numbers

end Recurrence.Json
