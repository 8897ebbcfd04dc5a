import Mathlib.Tactic.SplitIfs
import Recurrence.Calendar.Pattern
import Recurrence.Proofs.Calendar.CompactText

namespace Recurrence

/-!
# The compact form as a pattern

The pattern of the compact form also reads months and days of one digit, so a text
of eight digits may have several ways through it.  The way that takes two digits for
the month and two for the day comes first where it exists, and any other way leaves
digits over.  So on eight digits the pattern gives what the compact form gives.
-/

namespace DigitClass

variable {c : Char}

/-- A digit is in a range if its value is. -/
theorem value?_between
    (least greatest : Nat)
    (isDigit : c.isDigit = true) :
    (between least greatest).value? c =
      if least ≤ c.toNat - '0'.toNat ∧ c.toNat - '0'.toNat ≤ greatest then
        some (c.toNat - '0'.toNat)
      else
        none := by
  simp only [value?, isDigit, Bool.true_and, Bool.and_eq_true, decide_eq_true_eq]

theorem value?_decimal
    (isDigit : c.isDigit = true) :
    decimal.value? c = some (c.toNat - '0'.toNat) := by
  have bounds := Text.digit_bounds isDigit
  have zero : '0'.toNat = 48 := rfl
  have first :
      (Text.decimalZeros.find? fun start => start ≤ c.toNat && c.toNat ≤ start + 9) =
        some 0x30 := by
    refine List.find?_cons_of_pos ?_
    rw [Bool.and_eq_true, decide_eq_true_eq, decide_eq_true_eq]
    omega
  rw [value?, Text.decimalDigit?, first]
  rfl

theorem value?_space
    (isDigit : c.isDigit = true) :
    space.value? c = none := by
  rw [value?, if_neg]
  rintro rfl
  cases isDigit

/-- Any digits are read where any digit may stand. -/
theorem readNumber?_decimal
    {digits : List Char}
    (allDigits : Text.AllDigits digits)
    (rest : List Char)
    (number : Nat) :
    readNumber? (List.replicate digits.length decimal) (digits ++ rest) number =
      some (Nat.ofDigitChars 10 digits number, rest) := by
  induction digits generalizing number with
  | nil => rfl
  | cons c digits inductionHypothesis =>
      rw [List.length_cons, List.replicate_succ, List.cons_append, readNumber?,
        value?_decimal allDigits.head, Nat.ofDigitChars_cons]
      exact inductionHypothesis allDigits.tail _

/-- A number takes as many characters as it has places. -/
theorem length_of_readNumber?
    {places : List DigitClass}
    {text rest : List Char}
    {start number : Nat}
    (read : readNumber? places text start = some (number, rest)) :
    text.length = rest.length + places.length := by
  induction places generalizing text start with
  | nil =>
      cases read
      rfl
  | cons place places inductionHypothesis =>
      cases text with
      | nil => cases read
      | cons c following =>
          rw [readNumber?] at read
          split at read
          · rw [List.length_cons, List.length_cons, inductionHypothesis read, Nat.add_assoc]
          · cases read

section Pairs

variable {a b : Char} {rest : List Char}

/-- One place takes a digit in its range. -/
theorem readNumber?_single
    (least greatest : Nat)
    (aDigit : a.isDigit = true) :
    readNumber? [between least greatest] (a :: rest) 0 =
      if least ≤ a.toNat - '0'.toNat ∧ a.toNat - '0'.toNat ≤ greatest then
        some (a.toNat - '0'.toNat, rest)
      else
        none := by
  rw [readNumber?, value?_between least greatest aDigit, Nat.mul_zero]
  split_ifs
  · simp only [readNumber?, Nat.zero_add]
  · rfl

/-- Two places take two digits, each in its range. -/
theorem readNumber?_pair
    (least greatest least' greatest' : Nat)
    (aDigit : a.isDigit = true)
    (bDigit : b.isDigit = true) :
    readNumber? [between least greatest, between least' greatest'] (a :: b :: rest) 0 =
      if (least ≤ a.toNat - '0'.toNat ∧ a.toNat - '0'.toNat ≤ greatest) ∧
          (least' ≤ b.toNat - '0'.toNat ∧ b.toNat - '0'.toNat ≤ greatest') then
        some (10 * (a.toNat - '0'.toNat) + (b.toNat - '0'.toNat), rest)
      else
        none := by
  simp only [readNumber?, value?_between _ _ aDigit, value?_between _ _ bDigit]
  by_cases first : least ≤ a.toNat - '0'.toNat ∧ a.toNat - '0'.toNat ≤ greatest
  · by_cases second : least' ≤ b.toNat - '0'.toNat ∧ b.toNat - '0'.toNat ≤ greatest'
    · simp only [first, second, and_self, if_true, Nat.mul_zero, Nat.zero_add]
    · simp only [first, second, and_self, and_false, if_true, if_false]
  · simp only [first, false_and, if_false]

/-- A place for any digit takes the digits from 0 to 9. -/
theorem readNumber?_pair_decimal
    (place : DigitClass)
    (bDigit : b.isDigit = true) :
    readNumber? [place, decimal] (a :: b :: rest) 0 =
      readNumber? [place, between 0 9] (a :: b :: rest) 0 := by
  have bBelow := (Text.digit_bounds bDigit).2
  have sameValue : decimal.value? b = (between 0 9).value? b := by
    rw [value?_decimal bDigit, value?_between 0 9 bDigit, if_pos (by omega)]
  simp only [readNumber?, sameValue]

/-- A place for a space takes no digit. -/
theorem readNumber?_space
    (places : List DigitClass)
    (aDigit : a.isDigit = true) :
    readNumber? (space :: places) (a :: rest) 0 = none := by
  rw [readNumber?, value?_space aDigit]

end Pairs

end DigitClass

namespace Directive

/-- The readings of a number up to `greatest` that has two digits, or one of two. -/
def pairReadings (greatest : Nat) (a b : Char) (rest : List Char) : List (Nat × List Char) :=
  let pair := Text.naturalOfDigits [a, b]
  let single := Text.naturalOfDigits [a]
  (if 1 ≤ pair ∧ pair ≤ greatest then [(pair, rest)] else []) ++
    (if 1 ≤ single then [(single, b :: rest)] else [])

section Readings

variable {a b : Char} {rest : List Char}

/-- A directive without names is read as one of its numbers. -/
theorem readings_of_nameless
    {directive : Directive}
    (nameless : directive.names = [])
    (text : List Char) :
    directive.readings text =
      directive.shapes.filterMap fun shape => DigitClass.readNumber? shape text 0 := by
  simp only [readings, nameless, List.zipIdx_nil, List.filterMap_nil, List.append_nil]

theorem readings_month
    (aDigit : a.isDigit = true)
    (bDigit : b.isDigit = true) :
    month.readings (a :: b :: rest) = pairReadings 12 a b rest := by
  have aBelow := (Text.digit_bounds aDigit).2
  have bBelow := (Text.digit_bounds bDigit).2
  rw [readings_of_nameless rfl]
  simp only [pairReadings, shapes, List.filterMap_cons, List.filterMap_nil,
    DigitClass.readNumber?_single _ _ aDigit, DigitClass.readNumber?_pair _ _ _ _ aDigit bDigit,
    Text.naturalOfDigits_pair, Text.naturalOfDigits_singleton]
  generalize a.toNat - '0'.toNat = first at aBelow
  generalize b.toNat - '0'.toNat = second at bBelow
  -- No two digits meet the conditions of the shapes and miss those of the pair, or conversely.
  split_ifs <;> try rfl
  all_goals omega

theorem readings_day
    (aDigit : a.isDigit = true)
    (bDigit : b.isDigit = true) :
    day.readings (a :: b :: rest) = pairReadings 31 a b rest := by
  have aBelow := (Text.digit_bounds aDigit).2
  have bBelow := (Text.digit_bounds bDigit).2
  rw [readings_of_nameless rfl]
  simp only [pairReadings, shapes, List.filterMap_cons, List.filterMap_nil,
    DigitClass.readNumber?_single _ _ aDigit, DigitClass.readNumber?_pair_decimal _ bDigit,
    DigitClass.readNumber?_pair _ _ _ _ aDigit bDigit, DigitClass.readNumber?_space _ aDigit,
    Text.naturalOfDigits_pair, Text.naturalOfDigits_singleton]
  generalize a.toNat - '0'.toNat = first at aBelow
  generalize b.toNat - '0'.toNat = second at bBelow
  split_ifs <;> try rfl
  all_goals omega

theorem readings_year
    {digits : List Char}
    (allDigits : Text.AllDigits digits)
    (width : digits.length = 4) :
    year.readings (digits ++ rest) = [(Text.naturalOfDigits digits, rest)] := by
  have read :
      DigitClass.readNumber? [.decimal, .decimal, .decimal, .decimal] (digits ++ rest) 0 =
        some (Text.naturalOfDigits digits, rest) := by
    have general := DigitClass.readNumber?_decimal allDigits rest 0
    rw [width] at general
    exact general
  rw [readings_of_nameless rfl]
  simp only [shapes, List.filterMap_cons, List.filterMap_nil, read]

/-- A number that two digits may be is read from both of them first. -/
theorem pairReadings_of_range
    {greatest : Nat}
    (inRange : 1 ≤ Text.naturalOfDigits [a, b] ∧ Text.naturalOfDigits [a, b] ≤ greatest) :
    ∃ others, pairReadings greatest a b rest = (Text.naturalOfDigits [a, b], rest) :: others :=
  ⟨_, by rw [pairReadings, if_pos inRange, List.singleton_append]⟩

/-- A reading takes both digits, which then are a number in range, or leaves the second. -/
theorem mem_pairReadings
    {greatest number : Nat}
    {following : List Char}
    (reading : (number, following) ∈ pairReadings greatest a b rest) :
    ((1 ≤ Text.naturalOfDigits [a, b] ∧ Text.naturalOfDigits [a, b] ≤ greatest) ∧
        number = Text.naturalOfDigits [a, b] ∧ following = rest) ∨
      following = b :: rest := by
  rw [pairReadings, List.mem_append] at reading
  rcases reading with both | one
  · left
    split_ifs at both with inRange
    · cases List.mem_singleton.mp both
      exact ⟨inRange, rfl, rfl⟩
    · cases both
  · right
    split_ifs at one
    · cases List.mem_singleton.mp one
      rfl
    · cases one

/-- A day takes two characters at most. -/
theorem length_of_mem_readings_day
    {text : List Char}
    {number : Nat}
    (reading : (number, rest) ∈ day.readings text) :
    text.length ≤ rest.length + 2 := by
  rw [readings_of_nameless rfl, List.mem_filterMap] at reading
  obtain ⟨shape, isShape, read⟩ := reading
  have short : ∀ shape ∈ day.shapes, shape.length ≤ 2 := by decide
  rw [DigitClass.length_of_readNumber? read]
  exact Nat.add_le_add_left (short shape isShape) _

end Readings

end Directive

namespace Pattern

section Fields

variable {directive : Directive} {pieces : List Piece} {text rest : List Char}

/-- A way through a pattern begins with a reading of its first field. -/
theorem readPieces?_field_inv
    {fields : DateFields}
    (found : readPieces? (.field directive :: pieces) text = some (fields, rest)) :
    ∃ number following others,
      (number, following) ∈ directive.readings text ∧
        readPieces? pieces following = some (others, rest) ∧
          fields = (directive, number) :: others := by
  rw [readPieces?] at found
  obtain ⟨⟨start, following⟩, reading, continued⟩ := List.exists_of_findSome?_eq_some found
  obtain ⟨⟨number, following⟩, ofField, same⟩ := List.mem_map.mp reading
  cases same
  obtain ⟨⟨others, rest⟩, throughOthers, whole⟩ := Option.map_eq_some_iff.mp continued
  cases whole
  exact ⟨number, following, others, ofField, throughOthers, rfl⟩

/-- The first reading of a field is taken where the rest of the pattern can follow. -/
theorem readPieces?_field
    {number : Nat}
    {following : List Char}
    {others : List (Nat × List Char)}
    {found : DateFields}
    (first : directive.readings text = (number, following) :: others)
    (throughOthers : readPieces? pieces following = some (found, rest)) :
    readPieces? (.field directive :: pieces) text =
      some ((directive, number) :: found, rest) := by
  simp only [readPieces?, Piece.readings, first, List.map_cons, List.findSome?_cons,
    throughOthers, Option.map_some, List.singleton_append]

theorem fields?_eq_some_iff
    {pattern : Pattern}
    {fields : DateFields} :
    pattern.fields? text = some fields ↔
      readPieces? pattern.pieces text = some (fields, []) := by
  rw [fields?]
  split
  · rename_i found whole
    rw [whole, Option.some.injEq, Option.some.injEq, Prod.mk.injEq, and_iff_left rfl]
  · rename_i notWhole
    exact ⟨nofun, fun whole => (notWhole fields whole).elim⟩

end Fields

/-- Eight digits match if they have a month and a day, and then in their own parts only. -/
theorem fields?_compact_iff
    {year : List Char}
    {m1 m2 d1 d2 : Char}
    {fields : DateFields}
    (width : year.length = 4)
    (allDigits : Text.AllDigits (year ++ [m1, m2, d1, d2])) :
    (ofText DateFormat.compactPattern.toList).fields? (year ++ [m1, m2, d1, d2]) =
        some fields ↔
      (1 ≤ Text.naturalOfDigits [m1, m2] ∧ Text.naturalOfDigits [m1, m2] ≤ 12) ∧
        (1 ≤ Text.naturalOfDigits [d1, d2] ∧ Text.naturalOfDigits [d1, d2] ≤ 31) ∧
          fields =
            [(.year, Text.naturalOfDigits year), (.month, Text.naturalOfDigits [m1, m2]),
              (.day, Text.naturalOfDigits [d1, d2])] := by
  have pieces :
      (ofText DateFormat.compactPattern.toList).pieces =
        [.field .year, .field .month, .field .day] :=
    rfl
  obtain ⟨yearDigits, others⟩ := Text.allDigits_append.mp allDigits
  have ofYear :
      Directive.year.readings (year ++ [m1, m2, d1, d2]) =
        [(Text.naturalOfDigits year, [m1, m2, d1, d2])] :=
    Directive.readings_year yearDigits width
  have ofMonth :
      Directive.month.readings [m1, m2, d1, d2] = Directive.pairReadings 12 m1 m2 [d1, d2] :=
    Directive.readings_month others.head others.tail.head
  have ofDay : Directive.day.readings [d1, d2] = Directive.pairReadings 31 d1 d2 [] :=
    Directive.readings_day others.tail.tail.head others.tail.tail.tail.head
  rw [fields?_eq_some_iff, pieces]
  constructor
  · intro matched
    obtain ⟨_, afterYear, _, yearReading, throughMonth, rfl⟩ := readPieces?_field_inv matched
    rw [ofYear] at yearReading
    cases List.mem_singleton.mp yearReading
    obtain ⟨_, afterMonth, _, monthReading, throughDay, rfl⟩ :=
      readPieces?_field_inv throughMonth
    obtain ⟨_, afterDay, _, dayReading, done, rfl⟩ := readPieces?_field_inv throughDay
    cases done
    rw [ofMonth] at monthReading
    rcases Directive.mem_pairReadings monthReading with ⟨inMonths, rfl, rfl⟩ | rfl
    · rw [ofDay] at dayReading
      rcases Directive.mem_pairReadings dayReading with ⟨inDays, rfl, _⟩ | leftOver
      · exact ⟨inMonths, inDays, rfl⟩
      · cases leftOver
    · -- A month of one digit leaves three, which are more than a day takes.
      have tooLong := Directive.length_of_mem_readings_day dayReading
      simp at tooLong
  · rintro ⟨inMonths, inDays, rfl⟩
    obtain ⟨laterMonths, monthFirst⟩ := Directive.pairReadings_of_range inMonths
    obtain ⟨laterDays, dayFirst⟩ := Directive.pairReadings_of_range inDays
    rw [readPieces?_field ofYear
      (readPieces?_field (ofMonth.trans monthFirst)
        (readPieces?_field (ofDay.trans dayFirst) rfl))]

/-- On eight digits the pattern gives the dates that the compact form gives. -/
theorem read?_compact
    {text : List Char}
    (width : text.length = 8)
    (allDigits : Text.AllDigits text) :
    (DateFormat.custom (ofText DateFormat.compactPattern.toList)).read? text =
      Date.ofCompact? text := by
  match text, width with
  | [y1, y2, y3, y4, m1, m2, d1, d2], width =>
      have yearWidth : [y1, y2, y3, y4].length = 4 := rfl
      rw [Date.ofCompact?_of_digits width allDigits]
      ext date
      rw [DateFormat.read?, Option.bind_eq_some_iff]
      constructor
      · rintro ⟨fields, matched, found⟩
        obtain ⟨_, _, rfl⟩ := (fields?_compact_iff yearWidth allDigits).mp matched
        exact found
      · intro found
        obtain ⟨_, month, day⟩ := Date.ofYearMonthDay?_eq_some_iff.mp found
        have monthRange := date.month_range
        have dayRange := date.day_range
        have atMost := monthLength_le date.year date.month
        rw [month] at monthRange
        rw [day] at dayRange
        have inDays := And.intro dayRange.1 (Nat.le_trans dayRange.2 atMost)
        exact ⟨_, (fields?_compact_iff yearWidth allDigits).mpr ⟨monthRange, inDays, rfl⟩, found⟩

end Pattern

end Recurrence
