import Recurrence.Calendar.Arithmetic
import Recurrence.Proofs.Calendar.Anniversary

namespace Recurrence

/-!
# Steps by days

A step by few days leads to the date with the number that is asked for, and fails
exactly if the calendar has no such date.  The last day of a month can be counted with
such steps: to the first day of the next month and back by a day.  December is counted
without them, so counting succeeds in December 9999, too, and gives the length of the
month.
-/

namespace Date

/-- The number of a date is one of the calendar's. -/
theorem number_range
    (date : Date) :
    1 ≤ date.number ∧ date.number ≤ lastNumber :=
  exists_number_eq_iff.mp ⟨date, rfl⟩

section Steps

variable {date next : Date} {days : Int}

theorem shiftDays_of_some
    (few : days.natAbs ≤ maxStepDays)
    (found : ofNumber? (date.number + days) = some next) :
    date.shiftDays days = .ok next := by
  rw [shiftDays, if_neg (Nat.not_lt.mpr few), addDays?, found]

/-- A step by few days fails only because the calendar ends. -/
theorem shiftDays_of_none
    (few : days.natAbs ≤ maxStepDays)
    (missing : ofNumber? (date.number + days) = none) :
    date.shiftDays days = .error .dateRange := by
  rw [shiftDays, if_neg (Nat.not_lt.mpr few), addDays?, missing]

theorem shiftDays_eq_ok_iff
    (few : days.natAbs ≤ maxStepDays) :
    date.shiftDays days = .ok next ↔ next.number = date.number + days := by
  rw [← ofNumber?_eq_some_iff]
  cases found : ofNumber? (date.number + days) with
  | some shifted => simp [shiftDays_of_some few found]
  | none => simp [shiftDays_of_none few found]

/-- A step forward by few days fails exactly if it leads past the last day of the calendar. -/
theorem shiftDays_eq_error_iff
    {error : StepError}
    (few : days.natAbs ≤ maxStepDays)
    (forward : 0 ≤ days) :
    date.shiftDays days = .error error ↔
      error = .dateRange ∧ lastNumber < date.number + days := by
  have dateRange := date.number_range
  cases found : ofNumber? (date.number + days) with
  | some shifted =>
      have within := (ofNumber?_eq_some_iff.mp found) ▸ shifted.number_range.2
      rw [shiftDays_of_some few found]
      constructor
      · intro impossible
        cases impossible
      · rintro ⟨_, past⟩
        exact absurd past (Int.not_lt.mpr within)
  | none =>
      have past : lastNumber < date.number + days := by
        have offCalendar := ofNumber?_eq_none_iff.mp found
        omega
      rw [shiftDays_of_none few found, Except.error.injEq]
      exact ⟨fun same => ⟨same.symm, past⟩, fun told => told.1.symm⟩

theorem one_few :
    (1 : Int).natAbs ≤ maxStepDays := by
  decide

/-- The step by one day leads to the next day. -/
theorem shiftDays_one_of_next?
    (found : date.next? = some next) :
    date.shiftDays 1 = .ok next :=
  (shiftDays_eq_ok_iff one_few).mpr (number_of_next? found)

theorem shiftDays_one_of_last
    (missing : date.next? = none) :
    date.shiftDays 1 = .error .dateRange := by
  rw [next?_eq_ofNumber?] at missing
  exact shiftDays_of_none one_few missing

end Steps

/-- The first day of the month after that of a date, or why there is none. -/
def firstOfNextMonth (date : Date) : Except StepError Date :=
  let year := if date.month < 12 then date.year else date.year + 1
  let month := if date.month < 12 then date.month + 1 else 1
  match ofYearMonthDay? year month 1 with
  | some first => .ok first
  | none => .error (.yearRange year)

/-- The last day of the month of a date, counted back from the next month. -/
def countLastDay (date : Date) : Except StepError Nat :=
  if date.month = 12 then
    .ok 31
  else
    match date.firstOfNextMonth with
    | .error error => .error error
    | .ok first =>
        match first.shiftDays (-1) with
        | .error error => .error error
        | .ok last => .ok last.day

section LastDays

variable {date first : Date}

theorem firstOfNextMonth_of_not_december
    (notDecember : date.month < 12) :
    ∃ first, date.firstOfNextMonth = .ok first ∧
      first.year = date.year ∧ first.month = date.month + 1 ∧ first.day = 1 := by
  have shortest := le_monthLength date.year (date.month + 1)
  obtain ⟨first, found⟩ :=
    exists_ofYearMonthDay? date.year_range
      (⟨Nat.le_add_left 1 _, notDecember⟩ : 1 ≤ date.month + 1 ∧ date.month + 1 ≤ 12)
      (⟨Nat.le_refl 1, Nat.le_trans (by decide) shortest⟩ :
        1 ≤ 1 ∧ 1 ≤ monthLength date.year (date.month + 1))
  refine ⟨first, ?_, ofYearMonthDay?_eq_some_iff.mp found⟩
  simp only [firstOfNextMonth, notDecember, ↓reduceIte, found]

/-- The last day of the month of a date. -/
def endOfMonth (date : Date) : Date :=
  ⟨date.year, date.month, monthLength date.year date.month, date.year_range, date.month_range,
    Nat.le_trans (by decide) (le_monthLength _ _), Nat.le_refl _⟩

/-- The day before the first of the next month is the last of the month. -/
theorem number_endOfMonth
    (sameYear : first.year = date.year)
    (nextMonth : first.month = date.month + 1)
    (firstDay : first.day = 1) :
    date.endOfMonth.number = first.number + -1 := by
  simp only [number, endOfMonth, sameYear, nextMonth, firstDay,
    daysBeforeMonth_succ date.year date.month_range.1]
  omega

/-- Counting back from the next month always succeeds and gives the length of the month. -/
theorem countLastDay_eq
    (date : Date) :
    date.countLastDay = .ok date.lastDayOfMonth := by
  by_cases december : date.month = 12
  · rw [countLastDay, if_pos december, lastDayOfMonth, december]
    rfl
  · have notDecember : date.month < 12 :=
      Nat.lt_of_le_of_ne date.month_range.2 december
    obtain ⟨first, found, sameYear, nextMonth, firstDay⟩ :=
      firstOfNextMonth_of_not_december notDecember
    have back : first.shiftDays (-1) = .ok date.endOfMonth :=
      (shiftDays_eq_ok_iff (by decide)).mpr (number_endOfMonth sameYear nextMonth firstDay)
    simp only [countLastDay, december, ↓reduceIte, found, back]
    rfl

end LastDays

/-- The date of a year, month and day that the calendar has. -/
def ofParts
    (year : Int)
    (month day : Nat)
    (valid : (ofYearMonthDay? year month day).isSome) :
    Date :=
  (ofYearMonthDay? year month day).get valid

end Date

/-- 31 December 9999, a Friday. -/
def endOfCalendar : Date :=
  .ofParts 9999 12 31 (by decide)

/-- 30 December 9999. -/
def dayBeforeTheEnd : Date :=
  .ofParts 9999 12 30 (by decide)

/-- The last day of the calendar comes after every other one. -/
theorem eq_endOfCalendar
    {date : Date}
    (last : Date.lastNumber ≤ date.number) :
    date = endOfCalendar :=
  Date.number_injective (Int.le_antisymm date.number_range.2 last)

end Recurrence
