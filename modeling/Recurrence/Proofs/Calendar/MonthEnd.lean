import Recurrence.Proofs.Calendar.DaySteps

namespace Recurrence

/-!
# The ends of months

The length of a month is counted by steps of days, and leap years are told by their number
alone.  Both agree with the Gregorian rule: thirty days have April, June, September and
November, and February has a 29th day in every fourth year, but of the centuries only in every
fourth.  A day is the last of its month exactly if a step of one day leads to a first day, or
nowhere, which is so on the last day of the calendar alone.
-/

/-- Every fourth year is a leap year, but of the centuries only every fourth. -/
def IsLeapYear (year : Int) : Prop :=
  4 ∣ year ∧ (100 ∣ year → 400 ∣ year)

/-- The number of days that a month of a year has. -/
inductive IsLengthOfMonth (year : Int) : Nat → Nat → Prop where
  | long {month : Nat}
      (listed : month ∈ [1, 3, 5, 7, 8, 10, 12]) :
      IsLengthOfMonth year month 31
  | short {month : Nat}
      (listed : month ∈ [4, 6, 9, 11]) :
      IsLengthOfMonth year month 30
  | leapFebruary
      (leap : IsLeapYear year) :
      IsLengthOfMonth year 2 29
  | commonFebruary
      (common : ¬ IsLeapYear year) :
      IsLengthOfMonth year 2 28

theorem isLeap_eq_true_iff
    {year : Int} :
    isLeap year = true ↔ IsLeapYear year := by
  simp only [isLeap, IsLeapYear, Bool.or_eq_true, Bool.and_eq_true, beq_iff_eq, bne_iff_ne]
  omega

/-- The months of a year have their Gregorian lengths. -/
theorem isLengthOfMonth_monthLength
    (year : Int)
    {month : Nat}
    (range : 1 ≤ month ∧ month ≤ 12) :
    IsLengthOfMonth year month (monthLength year month) := by
  have longLength : ∀ long ∈ [1, 3, 5, 7, 8, 10, 12], monthLength year long = 31 := by
    simp [monthLength]
  have shortLength : ∀ short ∈ [4, 6, 9, 11], monthLength year short = 30 := by
    simp [monthLength]
  by_cases february : month = 2
  · subst february
    rw [monthLength]
    split
    · rename_i leap
      exact .leapFebruary (isLeap_eq_true_iff.mp leap)
    · rename_i common
      exact .commonFebruary (mt isLeap_eq_true_iff.mpr common)
  · have listed : month ∈ [1, 3, 5, 7, 8, 10, 12] ∨ month ∈ [4, 6, 9, 11] := by
      simp only [List.mem_cons, List.not_mem_nil, or_false]
      omega
    rcases listed with long | short
    · rw [longLength month long]
      exact .long long
    · rw [shortLength month short]
      exact .short short

namespace Date

section Steps

variable {date next : Date}

/-- Before the end of its month a date is followed by the next day of that month. -/
theorem exists_next_inMonth
    (inside : date.day < monthLength date.year date.month) :
    ∃ next, date.shiftDays 1 = .ok next ∧
      next.year = date.year ∧ next.month = date.month ∧ next.day = date.day + 1 := by
  obtain ⟨next, found⟩ :=
    exists_ofYearMonthDay? date.year_range date.month_range
      (⟨Nat.le_add_left 1 _, inside⟩ :
        1 ≤ date.day + 1 ∧ date.day + 1 ≤ monthLength date.year date.month)
  have isNext : date.next? = some next := by
    rw [next?, if_pos inside, found]
  exact ⟨next, shiftDays_one_of_next? isNext, ofYearMonthDay?_eq_some_iff.mp found⟩

/-- What follows the last day of a month is a first day. -/
theorem day_of_next_of_last
    (last : date.isLastDayOfMonth = true)
    (found : date.next? = some next) :
    next.day = 1 := by
  have atEnd : ¬ date.day < monthLength date.year date.month := by
    have same : date.day = monthLength date.year date.month := by
      simpa [isLastDayOfMonth, lastDayOfMonth] using last
    omega
  rw [next?, if_neg atEnd] at found
  split at found
  · exact (ofYearMonthDay?_eq_some_iff.mp found).2.2
  · exact (ofYearMonthDay?_eq_some_iff.mp found).2.2

theorem lt_monthLength_of_not_last
    (notLast : ¬ date.isLastDayOfMonth = true) :
    date.day < monthLength date.year date.month := by
  have fits := date.day_range.2
  have differs : date.day ≠ monthLength date.year date.month := by
    simpa [isLastDayOfMonth, lastDayOfMonth] using notLast
  omega

/-- The last day of a month is the last of all, or a first day follows. -/
theorem isLastDayOfMonth_iff :
    date.isLastDayOfMonth = true ↔
      date = endOfCalendar ∨ ∃ next, date.shiftDays 1 = .ok next ∧ next.day = 1 := by
  constructor
  · intro last
    cases follows : date.next? with
    | none =>
        exact Or.inl (eq_endOfCalendar (Int.le_of_eq (number_of_next?_eq_none follows).symm))
    | some next =>
        exact Or.inr ⟨next, shiftDays_one_of_next? follows, day_of_next_of_last last follows⟩
  · rintro (rfl | ⟨next, stepped, first⟩)
    · decide
    · by_cases last : date.isLastDayOfMonth = true
      · exact last
      · obtain ⟨following, alsoStepped, _, _, later⟩ :=
          exists_next_inMonth (lt_monthLength_of_not_last last)
        cases stepped.symm.trans alsoStepped
        have positive := date.day_range.1
        omega

/-- The day before the last of a month is followed by the last day of the same month. -/
theorem isSecondToLastDayOfMonth_iff :
    date.isSecondToLastDayOfMonth = true ↔
      ∃ next, date.shiftDays 1 = .ok next ∧ next.year = date.year ∧ next.month = date.month ∧
        next.isLastDayOfMonth = true := by
  have shortest := le_monthLength date.year date.month
  have place :
      date.isSecondToLastDayOfMonth = true ↔
        date.day + 1 = monthLength date.year date.month := by
    rw [isSecondToLastDayOfMonth, lastDayOfMonth, beq_iff_eq]
    omega
  rw [place]
  constructor
  · intro beforeLast
    obtain ⟨next, stepped, sameYear, sameMonth, nextDay⟩ :=
      exists_next_inMonth (Nat.lt_of_succ_le (Nat.le_of_eq beforeLast))
    refine ⟨next, stepped, sameYear, sameMonth, ?_⟩
    rw [isLastDayOfMonth, lastDayOfMonth, beq_iff_eq, nextDay, sameYear, sameMonth, beforeLast]
  · rintro ⟨next, stepped, sameYear, sameMonth, nextLast⟩
    rw [isLastDayOfMonth, lastDayOfMonth, beq_iff_eq, sameYear, sameMonth] at nextLast
    by_cases last : date.isLastDayOfMonth = true
    · -- A first day would be the last of its month.
      rcases isLastDayOfMonth_iff.mp last with rfl | ⟨following, alsoStepped, first⟩
      · have nowhere : endOfCalendar.shiftDays 1 = .error .dateRange :=
          shiftDays_one_of_last (by decide)
        cases nowhere.symm.trans stepped
      · cases stepped.symm.trans alsoStepped
        omega
    · obtain ⟨following, alsoStepped, _, _, nextDay⟩ :=
        exists_next_inMonth (lt_monthLength_of_not_last last)
      cases stepped.symm.trans alsoStepped
      exact nextDay.symm.trans nextLast

end Steps

/-- A year of the calendar has a 29 February exactly if it is a leap year. -/
theorem exists_leapDay_iff
    {year : Int} :
    (∃ date : Date, date.year = year ∧ date.month = 2 ∧ date.day = 29) ↔
      1 ≤ year ∧ year ≤ 9999 ∧ isLeap year = true := by
  constructor
  · rintro ⟨date, rfl, february, last⟩
    have fits := date.day_range.2
    rw [february, last, monthLength] at fits
    refine ⟨date.year_range.1, date.year_range.2, ?_⟩
    cases leap : isLeap date.year with
    | true => rfl
    | false =>
        rw [leap] at fits
        exact absurd fits (by decide)
  · rintro ⟨positive, onCalendar, leap⟩
    have fits : 29 ≤ monthLength year 2 := Nat.le_of_eq (if_pos leap).symm
    obtain ⟨date, found⟩ :=
      exists_ofYearMonthDay? ⟨positive, onCalendar⟩ (by decide : 1 ≤ 2 ∧ 2 ≤ 12)
        ⟨by decide, fits⟩
    exact ⟨date, ofYearMonthDay?_eq_some_iff.mp found⟩

/--
Counting the last day of the month of a date always succeeds, in December 9999, too, and gives
the Gregorian length of the month, all of whose days are dates.  The tests for the last day of a
month and the day before it agree with steps of one day, and the test for leap years with the
days that February has on the calendar.
-/
theorem monthEnds
    (date : Date)
    (year : Int) :
    (date.countLastDay = .ok date.lastDayOfMonth ∧
        IsLengthOfMonth date.year date.month date.lastDayOfMonth ∧
        ∀ day, (∃ other : Date,
            other.year = date.year ∧ other.month = date.month ∧ other.day = day) ↔
          1 ≤ day ∧ day ≤ date.lastDayOfMonth) ∧
      (date.isLastDayOfMonth = true ↔
        date = endOfCalendar ∨ ∃ next, date.shiftDays 1 = .ok next ∧ next.day = 1) ∧
      (date.isSecondToLastDayOfMonth = true ↔
        ∃ next, date.shiftDays 1 = .ok next ∧ next.year = date.year ∧
          next.month = date.month ∧ next.isLastDayOfMonth = true) ∧
      ((∃ leapDay : Date, leapDay.year = year ∧ leapDay.month = 2 ∧ leapDay.day = 29) ↔
        1 ≤ year ∧ year ≤ 9999 ∧ isLeap year = true) ∧
      (isLeap year = true ↔ IsLeapYear year) := by
  refine ⟨⟨date.countLastDay_eq, isLengthOfMonth_monthLength date.year date.month_range, ?days⟩,
    isLastDayOfMonth_iff, isSecondToLastDayOfMonth_iff, exists_leapDay_iff, isLeap_eq_true_iff⟩
  case days =>
    intro day
    constructor
    · rintro ⟨other, sameYear, sameMonth, rfl⟩
      rw [lastDayOfMonth, ← sameYear, ← sameMonth]
      exact other.day_range
    · intro dayRange
      obtain ⟨other, found⟩ :=
        exists_ofYearMonthDay? date.year_range date.month_range dayRange
      exact ⟨other, ofYearMonthDay?_eq_some_iff.mp found⟩

end Date

end Recurrence
