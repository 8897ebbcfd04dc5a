import Recurrence.Calendar.DayNumber
import Recurrence.Rule.Occurrence

namespace Recurrence

/-!
# Anniversaries

Every year of the calendar has exactly one anniversary of a date.  It keeps the
month and the day, except that a 29 February falls on 1 March in a common year.
Dates of different years are ordered as the years are, so anniversaries follow
each other from year to year.
-/

/-- A year of the calendar ends before a later one begins. -/
theorem daysBeforeYear_add_le
    {earlier later : Int}
    (before : earlier < later) :
    daysBeforeYear earlier + (daysBeforeMonth earlier 13 : Nat) ≤
      daysBeforeYear later := by
  rw [← daysBeforeYear_add_months]
  exact daysBeforeYear_le before

/-- Only the length of February depends on the year. -/
theorem monthLength_eq_of_ne_two
    {month : Nat}
    (notFebruary : month ≠ 2)
    (year other : Int) :
    monthLength year month = monthLength other month := by
  unfold monthLength
  split
  · exact absurd rfl notFebruary
  · rfl
  · rfl
  · rfl
  · rfl
  · rfl

theorem february_le
    (year : Int) :
    monthLength year 2 ≤ 29 := by
  simp only [monthLength]
  split <;> decide

namespace Date

/-- A date of an earlier year is an earlier date. -/
theorem lt_of_year_lt
    {earlier later : Date}
    (before : earlier.year < later.year) :
    earlier < later := by
  have yearsApart := daysBeforeYear_add_le before
  have withinEarlier := earlier.dayOfYear_bounds.2
  have withinLater := later.dayOfYear_bounds.1
  rw [lt_iff, number_eq_dayOfYear, number_eq_dayOfYear]
  omega

/-- A later date is not in an earlier year. -/
theorem year_le_of_lt
    {earlier later : Date}
    (before : earlier < later) :
    earlier.year ≤ later.year := by
  refine Int.not_lt.mp fun yearsSwapped => ?_
  have swapped := lt_of_year_lt yearsSwapped
  rw [lt_iff] at before swapped
  omega

theorem isLeapDay_iff
    {date : Date} :
    date.isLeapDay = true ↔ date.month = 2 ∧ date.day = 29 := by
  simp [isLeapDay]

/-- The day and month of a date exist in a year, unless they are a leap day and it is common. -/
theorem day_le_monthLength
    (start : Date)
    {year : Int}
    (kept : ¬(start.isLeapDay = true ∧ isLeap year = false)) :
    start.day ≤ monthLength year start.month := by
  have fits := start.day_range.2
  by_cases february : start.month = 2
  · rw [february] at fits ⊢
    by_cases lastDay : start.day = 29
    · have leapDay := isLeapDay_iff.mpr ⟨february, lastDay⟩
      cases leap : isLeap year with
      | true => simp [monthLength, leap, lastDay]
      | false => exact absurd ⟨leapDay, leap⟩ kept
    · have shortest := le_monthLength year 2
      have longest := february_le start.year
      omega
  · rwa [monthLength_eq_of_ne_two february year start.year]

/-- The anniversary of a leap day in a common year is 1 March. -/
theorem anniversary?_of_common
    {start : Date}
    {year : Int}
    (leapDay : start.isLeapDay = true)
    (common : isLeap year = false) :
    start.anniversary? year = ofYearMonthDay? year 3 1 := by
  rw [anniversary?, leapDay, common]
  rfl

/-- Any other anniversary keeps month and day. -/
theorem anniversary?_of_kept
    {start : Date}
    {year : Int}
    (kept : ¬(start.isLeapDay = true ∧ isLeap year = false)) :
    start.anniversary? year = ofYearMonthDay? year start.month start.day := by
  have notMoved : (start.isLeapDay && !isLeap year) = false := by
    simpa using kept
  simp only [anniversary?, notMoved, Bool.false_eq_true, ↓reduceIte]

/-- The anniversary of a date in a year falls in that year. -/
theorem year_of_anniversary?
    {start date : Date}
    {year : Int}
    (found : start.anniversary? year = some date) :
    date.year = year := by
  by_cases moved : start.isLeapDay = true ∧ isLeap year = false
  · rw [anniversary?_of_common moved.1 moved.2] at found
    exact (ofYearMonthDay?_eq_some_iff.mp found).1
  · rw [anniversary?_of_kept moved] at found
    exact (ofYearMonthDay?_eq_some_iff.mp found).1

theorem exists_ofYearMonthDay?
    {year : Int}
    {month day : Nat}
    (yearRange : 1 ≤ year ∧ year ≤ 9999)
    (monthRange : 1 ≤ month ∧ month ≤ 12)
    (dayRange : 1 ≤ day ∧ day ≤ monthLength year month) :
    ∃ date, ofYearMonthDay? year month day = some date :=
  ⟨⟨year, month, day, yearRange, monthRange, dayRange⟩,
    dif_pos ⟨yearRange, monthRange, dayRange⟩⟩

/-- Every year of the calendar has an anniversary. -/
theorem exists_anniversary?
    (start : Date)
    {year : Int}
    (yearRange : 1 ≤ year ∧ year ≤ 9999) :
    ∃ date, start.anniversary? year = some date := by
  by_cases moved : start.isLeapDay = true ∧ isLeap year = false
  · rw [anniversary?_of_common moved.1 moved.2]
    exact exists_ofYearMonthDay? yearRange (by decide) ⟨by decide, by simp [monthLength]⟩
  · rw [anniversary?_of_kept moved]
    exact exists_ofYearMonthDay? yearRange start.month_range
      ⟨start.day_range.1, start.day_le_monthLength moved⟩

/-- No year past the calendar has an anniversary. -/
theorem anniversary?_eq_none_iff
    {start : Date}
    {year : Int} :
    start.anniversary? year = none ↔ ¬(1 ≤ year ∧ year ≤ 9999) := by
  constructor
  · intro missing yearRange
    obtain ⟨date, found⟩ := start.exists_anniversary? yearRange
    rw [missing] at found
    cases found
  · intro outOfRange
    cases found : start.anniversary? year with
    | none => rfl
    | some date =>
        have sameYear := year_of_anniversary? found
        exact absurd (sameYear ▸ date.year_range) outOfRange

end Date

/-- 29 February 2024. -/
def leapDay : Date :=
  ⟨2024, 2, 29, by decide, by decide, by decide⟩

/-- 29 February 2028, the next leap day. -/
def nextLeapDay : Date :=
  ⟨2028, 2, 29, by decide, by decide, by decide⟩

/-- 1 March 2027, the anniversary of a leap day in a common year. -/
def firstOfMarch : Date :=
  ⟨2027, 3, 1, by decide, by decide, by decide⟩

example : leapDay.anniversary? 2027 = some firstOfMarch := by decide

end Recurrence
