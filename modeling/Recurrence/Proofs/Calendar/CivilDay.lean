import Recurrence.Proofs.Calendar.Anniversary

namespace Recurrence

/-!
# Days of any year

The rules of the calendar hold before the year 1 and after the year 9999, too.  A
civil day is a day of any year.  It is a date if its year is one of the calendar's,
and civil days are numbered and ordered in the way of dates.
-/

/-- A day of any year. -/
structure CivilDay where
  year : Int
  month : Nat
  day : Nat
  month_range : 1 ≤ month ∧ month ≤ 12
  day_range : 1 ≤ day ∧ day ≤ monthLength year month
  deriving Repr

/-- A date as a day of any year. -/
def Date.civil (date : Date) : CivilDay :=
  ⟨date.year, date.month, date.day, date.month_range, date.day_range⟩

@[simp] theorem Date.year_civil
    (date : Date) :
    date.civil.year = date.year :=
  rfl

theorem Date.civil_injective :
    Function.Injective Date.civil := by
  intro date other same
  rcases date with ⟨year, month, day, yearRange, monthRange, dayRange⟩
  rcases other with ⟨otherYear, otherMonth, otherDay, otherYearRange, _, _⟩
  cases same
  rfl

namespace CivilDay

/-- The number of a day, counted from 1 for 1 January of year 1. -/
def number (civil : CivilDay) : Int :=
  daysBeforeYear civil.year + daysBeforeMonth civil.year civil.month + civil.day

/-- Civil days are ordered as they follow each other. -/
instance : LT CivilDay := ⟨fun earlier later => earlier.number < later.number⟩

instance : LE CivilDay := ⟨fun earlier later => earlier.number ≤ later.number⟩

instance (earlier later : CivilDay) : Decidable (earlier < later) :=
  inferInstanceAs (Decidable (earlier.number < later.number))

/-- The date that a civil day is, if its year is one of the calendar's. -/
def date? (civil : CivilDay) : Option Date :=
  Date.ofYearMonthDay? civil.year civil.month civil.day

section

variable {civil earlier later : CivilDay} {date : Date}

theorem date?_eq_some_iff :
    civil.date? = some date ↔ date.civil = civil := by
  rcases civil with ⟨year, month, day, monthRange, dayRange⟩
  constructor
  · intro found
    obtain ⟨rfl, rfl, rfl⟩ := Date.ofYearMonthDay?_eq_some_iff.mp found
    rfl
  · intro same
    cases same
    exact date.ofYearMonthDay?_self

/-- Only the year of a civil day can keep it from being a date. -/
theorem date?_eq_none_iff :
    civil.date? = none ↔ ¬(1 ≤ civil.year ∧ civil.year ≤ 9999) := by
  constructor
  · intro missing yearRange
    obtain ⟨date, found⟩ :=
      Date.exists_ofYearMonthDay? yearRange civil.month_range civil.day_range
    cases missing.symm.trans found
  · intro outOfRange
    cases found : civil.date? with
    | none =>
        rfl
    | some date =>
        have same := date?_eq_some_iff.mp found
        exact absurd (same ▸ date.year_range) outOfRange

/-- A civil day falls within its year. -/
theorem number_bounds
    (civil : CivilDay) :
    daysBeforeYear civil.year < civil.number ∧
      civil.number ≤ daysBeforeYear (civil.year + 1) := by
  obtain ⟨positive, atMost⟩ := civil.day_range
  have inYear :=
    daysBeforeMonth_le civil.year civil.month_range.1
      (show civil.month < 13 from Nat.lt_succ_of_le civil.month_range.2)
  rw [daysBeforeYear_add_months]
  unfold number
  omega

/-- A day of an earlier year is an earlier day. -/
theorem lt_of_year_lt
    (before : earlier.year < later.year) :
    earlier < later := by
  have yearsApart := daysBeforeYear_le before
  have withinEarlier := earlier.number_bounds.2
  have withinLater := later.number_bounds.1
  show earlier.number < later.number
  omega

/-- A later day is not in an earlier year. -/
theorem year_le_of_lt
    (before : earlier < later) :
    earlier.year ≤ later.year := by
  apply Int.not_lt.mp
  intro yearsSwapped
  exact Int.lt_asymm before (lt_of_year_lt yearsSwapped)

end

end CivilDay

end Recurrence
