import Recurrence.Proofs.Advance.Failure
import Recurrence.Proofs.Calendar.DaySteps

namespace Recurrence

/-!
# Walking by intervals

A daily rule recurs on the multiples of its interval after its start.  A walk adds the
interval until a date comes after the reference, or until a step leaves the calendar.
Dividing the days between start and reference by the interval leads at once to the
multiple that ends the walk, wherever the reference lies.
-/

namespace Daily

/-- The number of the day so many intervals after `start`.  It may be past the calendar. -/
def multiple (rule : Daily) (start : Date) (steps : Nat) : Int :=
  start.number + steps * rule.interval

/-- The multiple after so many steps is the first one after a reference. -/
structure IsFirstMultiple (rule : Daily) (start now : Date) (steps : Nat) : Prop where
  positive : 1 ≤ steps
  after : now.number < rule.multiple start steps
  earliest :
    ∀ {other}, 1 ≤ other → now.number < rule.multiple start other → steps ≤ other

theorem interval_few
    (rule : Daily) :
    rule.interval.natAbs ≤ maxStepDays := by
  have atMost : rule.interval.natAbs ≤ 400 := by
    have range := rule.interval_range
    unfold IsDayInterval at range
    omega
  exact Nat.le_trans atMost (by decide)

/-- A step by the interval leaves fewer days of the calendar. -/
theorem daysLeft_lt
    {rule : Daily}
    {current next : Date}
    (stepped : current.shiftDays rule.interval = .ok next) :
    (Date.lastNumber - next.number).toNat < (Date.lastNumber - current.number).toNat := by
  have numbered := (Date.shiftDays_eq_ok_iff rule.interval_few).mp stepped
  have positive := rule.interval_pos
  have atMost := next.number_range.2
  omega

/-- The walk by one interval after the other to the first date after `now`. -/
def walk (rule : Daily) (now current : Date) : Except StepError Date :=
  match _ : current.shiftDays rule.interval with
  | .error error => .error error
  | .ok next =>
      if now < next then
        .ok next
      else
        rule.walk now next
termination_by (Date.lastNumber - current.number).toNat
decreasing_by
  exact daysLeft_lt ‹_›

section Multiples

variable {rule : Daily} {start now : Date} {steps other : Nat}

theorem multiple_succ
    (rule : Daily)
    (start : Date)
    (steps : Nat) :
    rule.multiple start (steps + 1) = rule.multiple start steps + rule.interval := by
  unfold multiple
  rw [Int.natCast_add, Int.add_mul, Int.natCast_one, Int.one_mul, Int.add_assoc]

theorem multiple_zero
    (rule : Daily)
    (start : Date) :
    rule.multiple start 0 = start.number := by
  unfold multiple
  rw [Int.natCast_zero, Int.zero_mul, Int.add_zero]

theorem forward
    (rule : Daily)
    (steps : Nat) :
    0 ≤ steps * rule.interval :=
  Int.mul_nonneg (Int.natCast_nonneg steps) (Int.le_of_lt rule.interval_pos)

/-- The quotient of the closed form counts the steps to the first multiple. -/
theorem isFirstMultiple_of_stepsPast
    (counted : rule.stepsPast start now = steps) :
    rule.IsFirstMultiple start now steps where
  positive := by
    have atLeast : 1 ≤ rule.stepsPast start now := Int.le_max_left _ _
    omega
  after := by
    have reached := rule.lt_stepsPast_mul start now
    rwa [counted] at reached
  earliest := by
    intro other positive after
    have atMost := rule.stepsPast_le (Int.ofNat_le.mpr positive) after
    rw [counted] at atMost
    exact Int.ofNat_le.mp atMost

theorem exists_isFirstMultiple
    (rule : Daily)
    (start now : Date) :
    ∃ steps : Nat, rule.stepsPast start now = steps ∧ rule.IsFirstMultiple start now steps := by
  obtain ⟨steps, _, counted⟩ := rule.exists_stepsPast start now
  exact ⟨steps, counted, isFirstMultiple_of_stepsPast counted⟩

namespace IsFirstMultiple

/-- Multiples before the first one are not after the reference. -/
theorem not_after
    (first : rule.IsFirstMultiple start now steps)
    (positive : 1 ≤ other)
    (before : other < steps) :
    rule.multiple start other ≤ now.number := by
  apply Int.not_lt.mp
  intro after
  exact Nat.not_le.mpr before (first.earliest positive after)

/-- The multiple before the first one is not after the reference, unless it is the start. -/
theorem previous_le
    (first : rule.IsFirstMultiple start now steps) :
    rule.multiple start (steps - 1) ≤ max now.number start.number := by
  rcases Nat.eq_or_lt_of_le first.positive with single | several
  · subst single
    rw [multiple_zero]
    exact Int.le_max_right _ _
  · have before : steps - 1 < steps := Nat.sub_lt first.positive Nat.one_pos
    have notAfter := first.not_after (Nat.le_sub_one_of_lt several) before
    exact Int.le_trans notAfter (Int.le_max_left _ _)

/-- The step from the start to the first multiple is not too long. -/
theorem few
    (first : rule.IsFirstMultiple start now steps) :
    (steps * rule.interval).natAbs ≤ maxStepDays := by
  have previous := first.previous_le
  have startRange := start.number_range
  have nowRange := now.number_range
  have intervalRange := rule.interval_range
  have stepsShape : steps = steps - 1 + 1 := (Nat.sub_add_cancel first.positive).symm
  have reached : rule.multiple start steps = rule.multiple start (steps - 1) + rule.interval := by
    rw [← multiple_succ, ← stepsShape]
  have ahead := first.after
  unfold IsDayInterval at intervalRange
  unfold Date.lastNumber at startRange nowRange
  unfold maxStepDays
  unfold multiple at reached ahead previous
  omega

end IsFirstMultiple

end Multiples

section Walks

variable {rule : Daily} {start now current next : Date} {steps done : Nat}

theorem walk_of_step
    (stepped : current.shiftDays rule.interval = .ok next) :
    rule.walk now current = if now < next then .ok next else rule.walk now next := by
  rw [walk]
  split
  · rename_i refused
    cases stepped.symm.trans refused
  · rename_i built
    cases stepped.symm.trans built
    rfl

theorem walk_of_refused
    {error : StepError}
    (refused : current.shiftDays rule.interval = .error error) :
    rule.walk now current = .error error := by
  rw [walk]
  split
  · rename_i told
    cases refused.symm.trans told
    rfl
  · rename_i stepped
    cases refused.symm.trans stepped

theorem walk_of_past
    (past : Date.lastNumber < current.number + rule.interval) :
    rule.walk now current = .error .dateRange :=
  walk_of_refused <|
    (Date.shiftDays_eq_error_iff rule.interval_few (Int.le_of_lt rule.interval_pos)).mpr
      ⟨rfl, past⟩

theorem walk_of_after
    (numbered : next.number = current.number + rule.interval)
    (after : now < next) :
    rule.walk now current = .ok next := by
  have stepped := (Date.shiftDays_eq_ok_iff rule.interval_few).mpr numbered
  rw [walk_of_step stepped, if_pos after]

theorem walk_of_not_after
    (numbered : next.number = current.number + rule.interval)
    (notAfter : ¬ now < next) :
    rule.walk now current = rule.walk now next := by
  have stepped := (Date.shiftDays_eq_ok_iff rule.interval_few).mpr numbered
  rw [walk_of_step stepped, if_neg notAfter]

theorem exists_next
    (within : current.number + rule.interval ≤ Date.lastNumber) :
    ∃ next : Date, next.number = current.number + rule.interval := by
  have currentRange := current.number_range
  have positive := rule.interval_pos
  exact Date.exists_number_eq_iff.mpr ⟨by omega, within⟩

/-- A walk whose next multiple is not past the first one ends there, on or off the calendar. -/
theorem IsFirstMultiple.walk_eq
    (first : rule.IsFirstMultiple start now steps)
    {gap : Nat}
    (positive : 1 ≤ done)
    (stepped : current.number + rule.interval = rule.multiple start done)
    (reached : done + gap = steps) :
    rule.walk now current = start.shiftDays (steps * rule.interval) := by
  induction gap generalizing current done with
  | zero =>
      obtain rfl : done = steps := reached
      by_cases past : Date.lastNumber < current.number + rule.interval
      · have farther : Date.lastNumber < rule.multiple start done := stepped ▸ past
        rw [walk_of_past past]
        exact ((Date.shiftDays_eq_error_iff first.few (forward rule done)).mpr
          ⟨rfl, farther⟩).symm
      · obtain ⟨next, numbered⟩ := exists_next (Int.not_lt.mp past)
        have after : now < next := by
          rw [Date.lt_iff, numbered, stepped]
          exact first.after
        rw [walk_of_after numbered after]
        exact ((Date.shiftDays_eq_ok_iff first.few).mpr (numbered.trans stepped)).symm
  | succ gap inductionHypothesis =>
      have notAfter := first.not_after positive (by omega)
      -- A multiple that is not after the reference is on the calendar.
      have within : current.number + rule.interval ≤ Date.lastNumber :=
        stepped ▸ Int.le_trans notAfter now.number_range.2
      obtain ⟨next, numbered⟩ := exists_next within
      have passed : ¬ now < next := by
        rw [Date.lt_iff, numbered, stepped]
        exact Int.not_lt.mpr notAfter
      have steppedOn : next.number + rule.interval = rule.multiple start (done + 1) := by
        rw [numbered, stepped, multiple_succ]
      rw [walk_of_not_after numbered passed]
      exact inductionHypothesis (Nat.le_add_left 1 done) steppedOn (by omega)

/-- The walk from the start is one step to the first multiple. -/
theorem IsFirstMultiple.walk_start
    (first : rule.IsFirstMultiple start now steps) :
    rule.walk now start = start.shiftDays (steps * rule.interval) := by
  have stepped : start.number + rule.interval = rule.multiple start 1 := by
    rw [← Nat.zero_add 1, multiple_succ, multiple_zero]
  exact first.walk_eq (Nat.le_refl 1) stepped (Nat.add_sub_cancel' first.positive)

/-- Advancing a daily rule is the walk from its start. -/
theorem advance_eq_walk
    (rule : Daily)
    (start now : Date) :
    rule.advance start now = (rule.walk now start).mapError fun _ => .offCalendar := by
  obtain ⟨steps, counted, first⟩ := rule.exists_isFirstMultiple start now
  rw [first.walk_start, advance, counted, Date.addDays?]
  cases found : Date.ofNumber? (start.number + steps * rule.interval) with
  | some date =>
      rw [Date.shiftDays_of_some first.few found]
      rfl
  | none =>
      rw [Date.shiftDays_of_none first.few found]
      rfl

end Walks

end Daily

theorem advanceRule_daily_eq_walk
    (rule : Daily)
    (start now : Moment) :
    advanceRule (some (.daily rule)) start now =
      (rule.walk now.date start.date).mapError fun _ => .noMatch .offCalendar := by
  rw [advanceRule_some, Rule.advance, Daily.advance_eq_walk]
  cases rule.walk now.date start.date with
  | ok date => rfl
  | error failure => rfl

/--
A daily rule advances to the first multiple of its interval after its start that comes
after the reference, and fails, for leaving the calendar, exactly if that is past the
last day.  The quotient counts the steps to it, and the multiple before is not after the
reference, unless it is the start.  All this is what a walk by one interval after the
other comes to.
-/
theorem advanceRule_daily_iteration
    (rule : Daily)
    (start now : Moment) :
    (∃ steps : Nat, rule.IsFirstMultiple start.date now.date steps ∧
        rule.stepsPast start.date now.date = steps ∧
        rule.multiple start.date (steps - 1) ≤ max now.date.number start.date.number ∧
        (∀ date, advanceRule (some (.daily rule)) start now = .ok date ↔
          date.number = rule.multiple start.date steps) ∧
        (∀ error, advanceRule (some (.daily rule)) start now = .error error ↔
          error = .noMatch .offCalendar ∧
            Date.lastNumber < rule.multiple start.date steps)) ∧
      advanceRule (some (.daily rule)) start now =
        (rule.walk now.date start.date).mapError (fun _ => .noMatch .offCalendar) := by
  obtain ⟨steps, counted, first⟩ := rule.exists_isFirstMultiple start.date now.date
  refine ⟨⟨steps, first, counted, first.previous_le, ?found, ?failed⟩,
    advanceRule_daily_eq_walk rule start now⟩
  case found =>
    intro date
    rw [advanceRule_daily_eq_walk, mapError_eq_ok_iff, first.walk_start]
    exact Date.shiftDays_eq_ok_iff first.few
  case failed =>
    intro error
    rw [advanceRule_daily_eq_walk, mapError_eq_error_iff, first.walk_start]
    constructor
    · rintro ⟨_, stepped, rfl⟩
      have told :=
        (Date.shiftDays_eq_error_iff first.few (rule.forward steps)).mp stepped
      exact ⟨rfl, told.2⟩
    · rintro ⟨rfl, past⟩
      exact ⟨.dateRange,
        (Date.shiftDays_eq_error_iff first.few (rule.forward steps)).mpr ⟨rfl, past⟩, rfl⟩

/-- From one multiple, a rule goes on to the next one. -/
example :
    advanceRule (some (.daily ⟨366, by decide⟩)) (.day leapDay)
        (.day ⟨2025, 3, 1, by decide, by decide, by decide⟩) =
      .ok ⟨2026, 3, 2, by decide, by decide, by decide⟩ :=
  rfl

end Recurrence
