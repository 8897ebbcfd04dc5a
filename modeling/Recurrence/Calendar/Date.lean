import Recurrence.Calendar.MonthLength

namespace Recurrence

/-!
# Dates

A date is a day of the years 1 to 9999.  `Date.number` counts the days from
1 January of year 1, which has number 1, and dates are ordered by it; the day of
a given number, where there is one, is `Date.ofNumber?`.
-/

/-- A day of the years 1 to 9999. -/
structure Date where
  year : Int
  month : Nat
  day : Nat
  year_range : 1 ≤ year ∧ year ≤ 9999
  month_range : 1 ≤ month ∧ month ≤ 12
  day_range : 1 ≤ day ∧ day ≤ monthLength year month
  deriving Repr, DecidableEq

namespace Date

/-- The date of the given year, month and day, if there is one. -/
def ofYearMonthDay? (year : Int) (month day : Nat) : Option Date :=
  if valid :
      (1 ≤ year ∧ year ≤ 9999) ∧ (1 ≤ month ∧ month ≤ 12) ∧
        (1 ≤ day ∧ day ≤ monthLength year month) then
    some ⟨year, month, day, valid.1, valid.2.1, valid.2.2⟩
  else
    none

/-- A date is found from its year, month and day. -/
@[simp] theorem ofYearMonthDay?_self
    (date : Date) :
    ofYearMonthDay? date.year date.month date.day = some date := by
  rw [ofYearMonthDay?, dif_pos ⟨date.year_range, date.month_range, date.day_range⟩]

/-- What is found has the year, month and day that were asked for. -/
theorem ofYearMonthDay?_eq_some_iff
    {year : Int}
    {month day : Nat}
    {date : Date} :
    ofYearMonthDay? year month day = some date ↔
      date.year = year ∧ date.month = month ∧ date.day = day := by
  constructor
  · intro found
    rw [ofYearMonthDay?] at found
    split at found
    · cases found
      exact ⟨rfl, rfl, rfl⟩
    · exact absurd found (by simp)
  · rintro ⟨rfl, rfl, rfl⟩
    exact ofYearMonthDay?_self date

/-- The number of a day, counted from 1 for 1 January of year 1. -/
def number (date : Date) : Int :=
  daysBeforeYear date.year + daysBeforeMonth date.year date.month + date.day

/-- The number of the last day, 31 December 9999. -/
def lastNumber : Int := 3652059

/-- Dates are ordered as the days follow each other. -/
instance : LT Date := ⟨fun earlier later => earlier.number < later.number⟩

instance : LE Date := ⟨fun earlier later => earlier.number ≤ later.number⟩

instance (earlier later : Date) : Decidable (earlier < later) :=
  inferInstanceAs (Decidable (earlier.number < later.number))

instance (earlier later : Date) : Decidable (earlier ≤ later) :=
  inferInstanceAs (Decidable (earlier.number ≤ later.number))

theorem lt_iff
    {earlier later : Date} :
    earlier < later ↔ earlier.number < later.number :=
  Iff.rfl

theorem le_iff
    {earlier later : Date} :
    earlier ≤ later ↔ earlier.number ≤ later.number :=
  Iff.rfl

/-- The year that the day of the given number falls in. -/
def yearOfNumber (number : Int) : Int :=
  let estimate := (number - 1) * 400 / 146097 + 1
  if number ≤ daysBeforeYear estimate then
    estimate - 1
  else if daysBeforeYear (estimate + 1) < number then
    estimate + 1
  else
    estimate

/-- The month that holds the day of the given number within its year. -/
def monthOfDay (year : Int) (dayOfYear : Nat) : Nat :=
  (List.range' 1 12).countP fun month => daysBeforeMonth year month < dayOfYear

/-- The date of the given number, if it is not out of range. -/
def ofNumber? (number : Int) : Option Date :=
  let year := yearOfNumber number
  let dayOfYear := (number - daysBeforeYear year).toNat
  let month := monthOfDay year dayOfYear
  ofYearMonthDay? year month (dayOfYear - daysBeforeMonth year month)

/-- The day after a date, unless the date is the last of all. -/
def next? (date : Date) : Option Date :=
  if date.day < monthLength date.year date.month then
    ofYearMonthDay? date.year date.month (date.day + 1)
  else if date.month < 12 then
    ofYearMonthDay? date.year (date.month + 1) 1
  else
    ofYearMonthDay? (date.year + 1) 1 1

/-- The date so many days later, or earlier for a negative count. -/
def addDays? (date : Date) (days : Int) : Option Date :=
  ofNumber? (date.number + days)

/-- The date so many years later; 29 February becomes 28 February in a common year. -/
def addYears? (date : Date) (years : Int) : Option Date :=
  let year := date.year + years
  ofYearMonthDay? year date.month (min date.day (monthLength year date.month))

/-- Consecutive days from a date on, `count` of them unless the calendar ends before. -/
def daysFrom (date : Date) : Nat → List Date
  | 0 => []
  | count + 1 =>
      date ::
        match date.next? with
        | some following => following.daysFrom count
        | none => []

/-- The day of the week, 1 for Monday to 7 for Sunday. -/
def weekday (date : Date) : Int :=
  (date.number - 1) % 7 + 1

/-- The number of a day within its year. -/
def dayOfYear (date : Date) : Nat :=
  daysBeforeMonth date.year date.month + date.day

/-- The last day of the month that a date falls in. -/
def lastDayOfMonth (date : Date) : Nat :=
  monthLength date.year date.month

/-- Whether a date is the last day of its month. -/
def isLastDayOfMonth (date : Date) : Bool :=
  date.day == date.lastDayOfMonth

/-- Whether a date is the day before the last of its month. -/
def isSecondToLastDayOfMonth (date : Date) : Bool :=
  date.day == date.lastDayOfMonth - 1

/-- Whether a date is a 29 February. -/
def isLeapDay (date : Date) : Bool :=
  date.month == 2 && date.day == 29

end Date

end Recurrence
