import Recurrence.Proofs.Advance.Search
import Recurrence.Proofs.Calendar.DaySteps

namespace Recurrence

/-!
# Moving a task to its next date

A task that has moved to its next date can be taken to have begun there.  For
daily rules this changes nothing at all.  Weekly and monthly rules gain days at
the end of their window, so they keep the next date wherever they had one.
Yearly rules drift in one case only: a series of a leap day that has moved to
1 March before a leap year goes back to 29 February, while a series that begins
on that 1 March stays there.
-/

/-- A series of a leap day stands on 1 March, and the next year has a 29 February. -/
structure LeapDayDrift (start next : Date) : Prop where
  leapDay : start.month = 2 ∧ start.day = 29
  firstOfMarch : next.month = 3 ∧ next.day = 1
  leapYear : isLeap (next.year + 1) = true
  onCalendar : next.year + 1 ≤ 9999

section Daily

variable {rule : Daily} {start next : Date}

/-- After some intervals, the next step is one more interval. -/
theorem Daily.stepsPast_of_occurs
    {steps : Nat}
    (positive : 1 ≤ steps)
    (numbered : next.number = start.number + steps * rule.interval) :
    rule.stepsPast start next = steps + 1 := by
  have elapsed : next.number - start.number = steps * rule.interval := by omega
  have intervalNe : rule.interval ≠ 0 := Int.ne_of_gt rule.interval_pos
  rw [stepsPast, elapsed, Int.mul_ediv_cancel _ intervalNe]
  omega

theorem Daily.stepsPast_self
    (rule : Daily)
    (start : Date) :
    rule.stepsPast start start = 1 := by
  rw [stepsPast, Int.sub_self, Int.zero_ediv]
  rfl

/-- A daily series goes on in the same way from any of its dates. -/
theorem Daily.advance_eq_of_occurs
    (member : next ∈ (Rule.daily rule).occurrences start) :
    rule.advance next next = rule.advance start next := by
  obtain ⟨steps, positive, numbered⟩ := member
  have sameNumber :
      next.number + 1 * rule.interval =
        start.number + (steps + 1) * rule.interval := by
    calc
      next.number + 1 * rule.interval =
          start.number + (steps * rule.interval + 1 * rule.interval) := by
        rw [numbered, Int.add_assoc]
      _ = start.number + (steps + 1) * rule.interval := by
        rw [Int.add_mul]
  rw [advance, advance, stepsPast_self, stepsPast_of_occurs positive numbered,
    Date.addDays?, Date.addDays?, sameNumber]

end Daily

section Windows

variable {start next following : Date}

/-- A weekly series keeps its next date when it begins anew on one of its dates. -/
theorem Weekly.isSuccessor_rebased
    {rule : Weekly}
    (member : next ∈ (Rule.weekly rule).occurrences start)
    (successor : IsSuccessor ((Rule.weekly rule).occurrences start) next following) :
    IsSuccessor ((Rule.weekly rule).occurrences next) next following := by
  obtain ⟨notBeforeStart, _, _⟩ := member
  obtain ⟨_, inWindow, matching⟩ := successor.member
  have after := Date.lt_iff.mp successor.after
  apply successor.transfer
  · exact ⟨Int.le_of_lt after, by omega, matching⟩
  · rintro date ⟨fromNext, _, alsoMatching⟩ _ before
    rw [Date.lt_iff] at before
    exact ⟨by omega, by omega, alsoMatching⟩

/-- A monthly series keeps its next date when it begins anew on one of its dates. -/
theorem Monthly.isSuccessor_rebased
    {rule : Monthly}
    (member : next ∈ (Rule.monthly rule).occurrences start)
    (successor : IsSuccessor ((Rule.monthly rule).occurrences start) next following) :
    IsSuccessor ((Rule.monthly rule).occurrences next) next following := by
  obtain ⟨afterStart, _, _⟩ := member
  obtain ⟨_, inWindow, matching⟩ := successor.member
  have after := Date.lt_iff.mp successor.after
  apply successor.transfer
  · exact ⟨after, by omega, matching⟩
  · rintro date ⟨afterNext, _, alsoMatching⟩ _ before
    rw [Date.lt_iff] at before
    exact ⟨by omega, by omega, alsoMatching⟩

end Windows

section Yearly

variable {start next : Date}

/-- Dates of the same month and day have the same anniversaries. -/
theorem Date.anniversary?_congr
    (sameMonth : start.month = next.month)
    (sameDay : start.day = next.day)
    (year : Int) :
    start.anniversary? year = next.anniversary? year := by
  rw [anniversary?, anniversary?, isLeapDay, isLeapDay, sameMonth, sameDay]

/-- On one of its dates, a yearly series goes on to the anniversary of the next year. -/
theorem advanceYearly_of_occurs
    (member : next ∈ Rule.yearly.occurrences start) :
    advanceYearly start next = orOffCalendar (start.anniversary? (next.year + 1)) := by
  obtain ⟨laterYear, anniversary⟩ := member
  have searched : max (start.year + 1) next.year = next.year := Int.max_eq_right laterYear
  have notAhead : ¬ next < next := Int.lt_irrefl next.number
  rw [advanceYearly]
  simp only [searched, anniversary, notAhead, ↓reduceIte]

/-- From its own start, a yearly series goes on to the anniversary of the next year. -/
theorem advanceYearly_self
    (start : Date) :
    advanceYearly start start = orOffCalendar (start.anniversary? (start.year + 1)) := by
  have searched : max (start.year + 1) start.year = start.year + 1 :=
    Int.max_eq_left (by omega)
  rw [advanceYearly]
  simp only [searched]
  cases found : start.anniversary? (start.year + 1) with
  | none => rfl
  | some following =>
      have laterYear := Date.year_of_anniversary? found
      have ahead : start < following := Date.lt_of_year_lt (by omega)
      simp only [ahead, ↓reduceIte, orOffCalendar]

/-- Without drift, the series and the one begun anew have the same anniversary next year. -/
theorem anniversary?_rebased
    (member : next ∈ Rule.yearly.occurrences start)
    (noDrift : ¬ LeapDayDrift start next) :
    next.anniversary? (next.year + 1) = start.anniversary? (next.year + 1) := by
  obtain ⟨_, anniversary⟩ := member
  by_cases moved : start.isLeapDay = true ∧ isLeap next.year = false
  · obtain ⟨leapDay, common⟩ := moved
    rw [Date.anniversary?_of_common leapDay common] at anniversary
    obtain ⟨_, march, first⟩ := Date.ofYearMonthDay?_eq_some_iff.mp anniversary
    have stays : ¬(next.isLeapDay = true ∧ isLeap (next.year + 1) = false) := by
      rintro ⟨nextLeapDay, _⟩
      have february := (Date.isLeapDay_iff.mp nextLeapDay).1
      omega
    cases leap : isLeap (next.year + 1) with
    | false =>
        rw [Date.anniversary?_of_common leapDay leap, Date.anniversary?_of_kept stays,
          march, first]
    | true =>
        -- A leap year that brings no drift is past the end of the calendar.
        have past : ¬(1 ≤ next.year + 1 ∧ next.year + 1 ≤ 9999) := by
          rintro ⟨_, onCalendar⟩
          exact noDrift
            ⟨Date.isLeapDay_iff.mp leapDay, ⟨march, first⟩, leap, onCalendar⟩
        rw [Date.anniversary?_eq_none_iff.mpr past, Date.anniversary?_eq_none_iff.mpr past]
  · rw [Date.anniversary?_of_kept moved] at anniversary
    obtain ⟨_, sameMonth, sameDay⟩ := Date.ofYearMonthDay?_eq_some_iff.mp anniversary
    exact Date.anniversary?_congr sameMonth sameDay (next.year + 1)

/-- With drift, the series goes back to 29 February and the one begun anew stays on 1 March. -/
theorem anniversaries_of_drift
    (drift : LeapDayDrift start next) :
    ∃ february march,
      (february.year = next.year + 1 ∧ february.month = 2 ∧ february.day = 29) ∧
        (march.year = next.year + 1 ∧ march.month = 3 ∧ march.day = 1) ∧
        start.anniversary? (next.year + 1) = some february ∧
        next.anniversary? (next.year + 1) = some march := by
  have nextRange := next.year_range
  have yearRange : 1 ≤ next.year + 1 ∧ next.year + 1 ≤ 9999 :=
    ⟨by omega, drift.onCalendar⟩
  have startStays : ¬(start.isLeapDay = true ∧ isLeap (next.year + 1) = false) := by
    rintro ⟨_, common⟩
    rw [drift.leapYear] at common
    cases common
  have nextStays : ¬(next.isLeapDay = true ∧ isLeap (next.year + 1) = false) := by
    rintro ⟨_, common⟩
    rw [drift.leapYear] at common
    cases common
  obtain ⟨february, toFebruary⟩ := start.exists_anniversary? yearRange
  obtain ⟨march, toMarch⟩ := next.exists_anniversary? yearRange
  refine ⟨february, march, ?_, ?_, toFebruary, toMarch⟩
  · rw [Date.anniversary?_of_kept startStays, drift.leapDay.1, drift.leapDay.2] at toFebruary
    exact Date.ofYearMonthDay?_eq_some_iff.mp toFebruary
  · rw [Date.anniversary?_of_kept nextStays, drift.firstOfMarch.1,
      drift.firstOfMarch.2] at toMarch
    exact Date.ofYearMonthDay?_eq_some_iff.mp toMarch

end Yearly

/--
What becomes of a series that begins anew on `next`, one of its dates.  A daily
series goes on as before, or ends as before.  A weekly or monthly series keeps
the date that follows, if there is one.  A yearly series goes on as before except
exactly when a leap day drifts: then it would have gone to 29 February, and it
stays on 1 March instead.
-/
theorem advance_rebased
    (rule : Rule)
    (start now next : Date)
    (found : rule.advance start now = .ok next) :
    match rule with
    | .daily _ => rule.advance next next = rule.advance start next
    | .weekly _ | .monthly _ =>
        ∀ following, rule.advance start next = .ok following →
          rule.advance next next = .ok following
    | .yearly =>
        (rule.advance next next = rule.advance start next ↔ ¬ LeapDayDrift start next) ∧
          (LeapDayDrift start next →
            ∃ february march : Date,
              (february.year = next.year + 1 ∧ february.month = 2 ∧ february.day = 29) ∧
                (march.year = next.year + 1 ∧ march.month = 3 ∧ march.day = 1) ∧
                rule.advance start next = .ok february ∧
                rule.advance next next = .ok march) := by
  have finds := rule.findsSuccessor_advance start
  have member := ((finds now).eq_ok_iff.mp found).member
  cases rule with
  | daily rule => exact Daily.advance_eq_of_occurs member
  | weekly rule =>
      intro following continued
      have successor := (finds next).eq_ok_iff.mp continued
      have rebased := Weekly.isSuccessor_rebased member successor
      exact (Rule.findsSuccessor_advance _ next next).eq_ok_iff.mpr rebased
  | monthly rule =>
      intro following continued
      have successor := (finds next).eq_ok_iff.mp continued
      have rebased := Monthly.isSuccessor_rebased member successor
      exact (Rule.findsSuccessor_advance _ next next).eq_ok_iff.mpr rebased
  | yearly =>
      simp only [Rule.advance, advanceYearly_of_occurs member, advanceYearly_self]
      constructor
      · constructor
        · intro same drift
          obtain ⟨february, march, inFebruary, inMarch, toFebruary, toMarch⟩ :=
            anniversaries_of_drift drift
          rw [toFebruary, toMarch] at same
          have sameDate : march = february := Except.ok.inj same
          rw [sameDate] at inMarch
          omega
        · intro noDrift
          rw [anniversary?_rebased member noDrift]
      · intro drift
        obtain ⟨february, march, inFebruary, inMarch, toFebruary, toMarch⟩ :=
          anniversaries_of_drift drift
        exact ⟨february, march, inFebruary, inMarch,
          by rw [toFebruary, orOffCalendar], by rw [toMarch, orOffCalendar]⟩

/-- The daily rule of every other week. -/
def fortnights : Daily :=
  ⟨14, by decide⟩

/-- The weekly rule of Mondays and Wednesdays. -/
def mondaysAndWednesdays : Weekly :=
  ⟨.ofList [1, 3], by decide, by decide⟩

/-- The monthly rule of the fifteenth and the last day of March and April. -/
def halfMonths : Monthly :=
  ⟨.ofList [15, -1], .ofList [3, 4], by decide, by decide, by decide⟩

/-- A day of March 2024. -/
def march2024 (day : Nat) (valid : (Date.ofYearMonthDay? 2024 3 day).isSome := by decide) : Date :=
  .ofParts 2024 3 day valid

/--
Tasks of 29 February 2024.  From their first dates in March 2024 on, one of every other
week, one of weekdays and one of month days go on as before.  One of every year that has
moved to 1 March 2027 drifts: its next date differs from that of a task begun on that day.
-/
theorem advance_rebased_leapDay :
    (fortnights.advance leapDay leapDay = .ok (march2024 14) ∧
        fortnights.advance leapDay (march2024 14) = .ok (march2024 28) ∧
          fortnights.advance (march2024 14) (march2024 14) = .ok (march2024 28)) ∧
      (mondaysAndWednesdays.advance leapDay leapDay = .ok (march2024 4) ∧
        mondaysAndWednesdays.advance leapDay (march2024 4) = .ok (march2024 6) ∧
          mondaysAndWednesdays.advance (march2024 4) (march2024 4) = .ok (march2024 6)) ∧
      (halfMonths.advance leapDay leapDay = .ok (march2024 15) ∧
        halfMonths.advance leapDay (march2024 15) = .ok (march2024 31) ∧
          halfMonths.advance (march2024 15) (march2024 15) = .ok (march2024 31)) ∧
      Rule.yearly.advance leapDay ⟨2027, 1, 1, by decide, by decide, by decide⟩ =
          .ok firstOfMarch ∧
        LeapDayDrift leapDay firstOfMarch ∧
          Rule.yearly.advance firstOfMarch firstOfMarch ≠
            Rule.yearly.advance leapDay firstOfMarch := by
  refine ⟨?daily, ?weekly, ?monthly, ?yearly⟩
  case daily =>
    have found : fortnights.advance leapDay leapDay = .ok (march2024 14) := rfl
    have continued : fortnights.advance leapDay (march2024 14) = .ok (march2024 28) := rfl
    have rebased := advance_rebased (.daily fortnights) leapDay leapDay (march2024 14) found
    exact ⟨found, continued, rebased.trans continued⟩
  case weekly =>
    have found : mondaysAndWednesdays.advance leapDay leapDay = .ok (march2024 4) := rfl
    have continued : mondaysAndWednesdays.advance leapDay (march2024 4) = .ok (march2024 6) := rfl
    have rebased :=
      advance_rebased (.weekly mondaysAndWednesdays) leapDay leapDay (march2024 4) found
    exact ⟨found, continued, rebased _ continued⟩
  case monthly =>
    have found : halfMonths.advance leapDay leapDay = .ok (march2024 15) := rfl
    have continued : halfMonths.advance leapDay (march2024 15) = .ok (march2024 31) := rfl
    have rebased := advance_rebased (.monthly halfMonths) leapDay leapDay (march2024 15) found
    exact ⟨found, continued, rebased _ continued⟩
  case yearly =>
    have found :
        Rule.yearly.advance leapDay ⟨2027, 1, 1, by decide, by decide, by decide⟩ =
          .ok firstOfMarch := rfl
    have drift : LeapDayDrift leapDay firstOfMarch :=
      ⟨⟨rfl, rfl⟩, ⟨rfl, rfl⟩, by decide, by decide⟩
    obtain ⟨same, _⟩ := advance_rebased .yearly leapDay _ firstOfMarch found
    exact ⟨found, drift, fun agree => same.mp agree drift⟩

end Recurrence
