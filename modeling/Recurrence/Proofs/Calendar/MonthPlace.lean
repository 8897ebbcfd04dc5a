import Recurrence.Proofs.Calendar.DaySteps

namespace Recurrence

/-!
# Places in a month

A day can be named by its place in a month: counted from the first day, or backwards
from the last one.  A place that a month has in common years it has in every year.  A
leap day moves what comes after it by a day, so from one year to the next a place moves
by 366 days at most, and a day that has such a place in a given month is never further
away than that.
-/

/-- The number of days of a month in years without a leap day. -/
def commonLength (month : Nat) : Nat :=
  monthLength 1 month

/-- The number of leap days of a year. -/
def leapDays (year : Int) : Nat :=
  if isLeap year then 1 else 0

theorem leapDays_le
    (year : Int) :
    leapDays year ≤ 1 := by
  unfold leapDays
  split
  · exact Nat.le_refl 1
  · exact Nat.zero_le 1

theorem monthLength_february
    (year : Int) :
    monthLength year 2 = commonLength 2 + leapDays year := by
  have common : commonLength 2 = 28 := by decide
  rw [common, monthLength, leapDays]
  split
  · rfl
  · rfl

/-- A leap day makes February longer, and no other month. -/
theorem monthLength_eq
    (year : Int)
    (month : Nat) :
    monthLength year month = commonLength month + (if month = 2 then leapDays year else 0) := by
  by_cases february : month = 2
  · rw [if_pos february, february, monthLength_february]
  · rw [if_neg february, Nat.add_zero]
    exact monthLength_eq_of_ne_two february year 1

theorem commonLength_le
    (year : Int)
    (month : Nat) :
    commonLength month ≤ monthLength year month := by
  rw [monthLength_eq]
  exact Nat.le_add_right _ _

/-- A leap day comes before March and all later months. -/
theorem daysBeforeMonth_eq
    (year : Int)
    (month : Nat) :
    daysBeforeMonth year month =
      daysBeforeMonth 1 month + (if 2 < month then leapDays year else 0) := by
  induction month with
  | zero => rfl
  | succ month inductionHypothesis =>
      rcases Nat.eq_zero_or_pos month with rfl | positive
      · rfl
      · rw [daysBeforeMonth_succ year positive, daysBeforeMonth_succ 1 positive,
          inductionHypothesis, monthLength_eq year month, commonLength]
        rcases Nat.lt_trichotomy month 2 with before | february | later
        · rw [if_neg (by omega), if_neg (by omega), if_neg (by omega)]
          rfl
        · rw [if_neg (by omega), if_pos february, if_pos (by omega)]
          omega
        · rw [if_pos later, if_neg (by omega), if_pos (by omega)]
          omega

theorem daysBeforeYear_leapDays
    (year : Int) :
    daysBeforeYear (year + 1) = daysBeforeYear year + 365 + leapDays year := by
  rw [daysBeforeYear_succ, leapDays]
  split
  · rw [Int.add_assoc]
    rfl
  · rw [Int.add_assoc]
    rfl

/-- The number of the last day before a month. -/
def numberBeforeMonth (year : Int) (month : Nat) : Int :=
  daysBeforeYear year + daysBeforeMonth year month

/-- A month begins at most 366 days later than in the year before. -/
theorem numberBeforeMonth_succ_le
    (year : Int)
    (month : Nat) :
    numberBeforeMonth (year + 1) month ≤ numberBeforeMonth year month + 366 := by
  have thisYear := leapDays_le year
  have nextYear := leapDays_le (year + 1)
  rw [numberBeforeMonth, numberBeforeMonth, daysBeforeYear_leapDays,
    daysBeforeMonth_eq (year + 1), daysBeforeMonth_eq year]
  split
  · omega
  · omega

/-- The day of a month at a place: from the first day on, or backwards from the last one. -/
def dayAtPlace (year : Int) (month : Nat) (place : Int) : Int :=
  if place < 0 then
    monthLength year month + 1 + place
  else
    place

/-- A place that the month has in every year. -/
structure IsPlace (month : Nat) (place : Int) : Prop where
  ne_zero : place ≠ 0
  fromEnd : -28 ≤ place
  fromStart : place ≤ commonLength month

/-- A place is a day of the month in every year. -/
theorem IsPlace.dayAtPlace_range
    {month : Nat}
    {place : Int}
    (valid : IsPlace month place)
    (year : Int) :
    1 ≤ dayAtPlace year month place ∧ dayAtPlace year month place ≤ monthLength year month := by
  have shortest := le_monthLength year month
  have common := commonLength_le year month
  obtain ⟨notZero, fromEnd, fromStart⟩ := valid
  unfold dayAtPlace
  split
  · omega
  · omega

/-- The number of the day at a place. -/
def numberAtPlace (year : Int) (month : Nat) (place : Int) : Int :=
  numberBeforeMonth year month + dayAtPlace year month place

/-- Counted backwards, a place depends on where the next month begins. -/
theorem numberAtPlace_of_neg
    {month : Nat}
    {place : Int}
    (positive : 1 ≤ month)
    (backwards : place < 0)
    (year : Int) :
    numberAtPlace year month place = numberBeforeMonth year (month + 1) + 1 + place := by
  unfold numberAtPlace numberBeforeMonth
  rw [dayAtPlace, if_pos backwards, daysBeforeMonth_succ year positive]
  omega

/-- From one year to the next, a place moves by 366 days at most. -/
theorem numberAtPlace_succ_le
    {month : Nat}
    (positive : 1 ≤ month)
    (year place : Int) :
    numberAtPlace (year + 1) month place ≤ numberAtPlace year month place + 366 := by
  by_cases backwards : place < 0
  · have nextMonth := numberBeforeMonth_succ_le year (month + 1)
    rw [numberAtPlace_of_neg positive backwards, numberAtPlace_of_neg positive backwards]
    omega
  · have thisMonth := numberBeforeMonth_succ_le year month
    rw [numberAtPlace, numberAtPlace, dayAtPlace, if_neg backwards, dayAtPlace, if_neg backwards]
    omega

/-- A date is at a place of a month. -/
structure Date.AtPlace (date : Date) (month : Nat) (place : Int) : Prop where
  sameMonth : date.month = month
  sameDay : (date.day : Int) = dayAtPlace date.year month place

theorem Date.AtPlace.number_eq
    {date : Date}
    {month : Nat}
    {place : Int}
    (atPlace : date.AtPlace month place) :
    date.number = numberAtPlace date.year month place := by
  rw [Date.number, numberAtPlace, numberBeforeMonth, atPlace.sameDay, atPlace.sameMonth]

/-- The number of a date is between those of the last days of two years. -/
theorem Date.number_inYear
    (date : Date) :
    daysBeforeYear date.year < date.number ∧ date.number ≤ daysBeforeYear (date.year + 1) := by
  have bounds := Date.yearOfNumber_bounds date.number
  rwa [Date.yearOfNumber_number] at bounds

/-- No day of the last year has 366 days after it. -/
theorem year_lt_of_onCalendar
    {date : Date}
    (onCalendar : date.number + 366 ≤ Date.lastNumber) :
    date.year < 9999 := by
  have inYear := date.number_inYear.1
  have lastYear : daysBeforeYear 9999 + 366 = Date.lastNumber + 1 := by decide
  rcases Int.lt_or_eq_of_le date.year_range.2 with earlier | isLast
  · exact earlier
  · rw [isLast] at inYear
    omega

namespace IsPlace

variable {month : Nat} {place : Int}

/-- Every year of the calendar has a date at a place. -/
theorem exists_atPlace
    {year : Int}
    (valid : IsPlace month place)
    (monthRange : 1 ≤ month ∧ month ≤ 12)
    (yearRange : 1 ≤ year ∧ year ≤ 9999) :
    ∃ date : Date, date.year = year ∧ date.AtPlace month place := by
  have range := valid.dayAtPlace_range year
  have dayRange :
      1 ≤ (dayAtPlace year month place).toNat ∧
        (dayAtPlace year month place).toNat ≤ monthLength year month := by
    omega
  obtain ⟨date, found⟩ := Date.exists_ofYearMonthDay? yearRange monthRange dayRange
  obtain ⟨sameYear, sameMonth, sameDay⟩ := Date.ofYearMonthDay?_eq_some_iff.mp found
  subst sameYear
  exact ⟨date, rfl, sameMonth, by omega⟩

/-- The day at a place of this year, or else of the next one, follows within 366 days. -/
theorem exists_within
    (valid : IsPlace month place)
    (monthRange : 1 ≤ month ∧ month ≤ 12)
    (date : Date)
    (onCalendar : date.number + 366 ≤ Date.lastNumber) :
    ∃ next : Date, date < next ∧ next.number ≤ date.number + 366 ∧ next.AtPlace month place := by
  obtain ⟨candidate, thisYear, atPlace⟩ := valid.exists_atPlace monthRange date.year_range
  by_cases ahead : date < candidate
  · have dateInYear := date.number_inYear.1
    have candidateInYear := candidate.number_inYear.2
    have yearLength := leapDays_le date.year
    rw [thisYear, daysBeforeYear_leapDays] at candidateInYear
    exact ⟨candidate, ahead, by omega, atPlace⟩
  · -- The day of this year has come, so it is the one of the next year.
    have yearRange : 1 ≤ date.year + 1 ∧ date.year + 1 ≤ 9999 := by
      have thisYearRange := date.year_range
      have notLast := year_lt_of_onCalendar onCalendar
      omega
    obtain ⟨following, nextYear, alsoAtPlace⟩ := valid.exists_atPlace monthRange yearRange
    have moved := numberAtPlace_succ_le monthRange.1 date.year place
    have notAfter : candidate.number ≤ date.number := Int.not_lt.mp ahead
    rw [atPlace.number_eq, thisYear] at notAfter
    refine ⟨following, Date.lt_of_year_lt (by omega), ?_, alsoAtPlace⟩
    rw [alsoAtPlace.number_eq, nextYear]
    omega

end IsPlace

end Recurrence
