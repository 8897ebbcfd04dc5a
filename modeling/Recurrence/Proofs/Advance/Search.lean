import Recurrence.Proofs.Advance.Successor
import Recurrence.Proofs.Calendar.Anniversary
import Recurrence.Proofs.Calendar.DayWindow

namespace Recurrence

/-!
# The searches of the four kinds of rules

Each kind of rule has a search of its own: a division, a look at two years, and
two walks through a window of days.  All of them find the successor of the
reference among the occurrences of the rule, and each fails in one way only.
-/

namespace Daily

theorem interval_pos
    (rule : Daily) :
    0 < rule.interval :=
  rule.interval_range.1

/-- The steps past a reference date lead past it. -/
theorem lt_stepsPast_mul
    (rule : Daily)
    (start now : Date) :
    now.number < start.number + rule.stepsPast start now * rule.interval := by
  have positive := rule.interval_pos
  have beyond :=
    Int.lt_ediv_add_one_mul_self (now.number - start.number) positive
  have atLeast :
      ((now.number - start.number) / rule.interval + 1) * rule.interval ≤
        rule.stepsPast start now * rule.interval :=
    Int.mul_le_mul_of_nonneg_right (Int.le_max_right _ _) (Int.le_of_lt positive)
  omega

/-- Any number of steps that leads past a reference date is at least the steps past it. -/
theorem stepsPast_le
    (rule : Daily)
    {start now : Date}
    {steps : Int}
    (positive : 1 ≤ steps)
    (past : now.number < start.number + steps * rule.interval) :
    rule.stepsPast start now ≤ steps := by
  have quotient :
      (now.number - start.number) / rule.interval < steps :=
    Int.ediv_lt_of_lt_mul rule.interval_pos (by omega)
  exact Int.max_le.mpr ⟨positive, quotient⟩

theorem exists_stepsPast
    (rule : Daily)
    (start now : Date) :
    ∃ steps : Nat, 1 ≤ steps ∧ rule.stepsPast start now = steps := by
  have positive : 1 ≤ rule.stepsPast start now := Int.le_max_left _ _
  exact ⟨(rule.stepsPast start now).toNat, by omega, by omega⟩

/-- A daily rule finds the first multiple of its interval after the reference. -/
theorem findsSuccessor_advance
    (rule : Daily)
    (start now : Date) :
    FindsSuccessor ((Rule.daily rule).occurrences start) now (rule.advance start now) := by
  have reached := rule.lt_stepsPast_mul start now
  have earliest :
      ∀ {date}, date ∈ (Rule.daily rule).occurrences start → now < date →
        start.number + rule.stepsPast start now * rule.interval ≤ date.number := by
    rintro date ⟨steps, positive, numbered⟩ after
    rw [Date.lt_iff, numbered] at after
    have atMost :=
      rule.stepsPast_le (by omega : (1 : Int) ≤ steps) after
    have scaled :=
      Int.mul_le_mul_of_nonneg_right atMost (Int.le_of_lt rule.interval_pos)
    omega
  rw [advance, Date.addDays?]
  cases found : Date.ofNumber? (start.number + rule.stepsPast start now * rule.interval) with
  | some next =>
      have numbered := Date.ofNumber?_eq_some_iff.mp found
      obtain ⟨steps, positive, counted⟩ := rule.exists_stepsPast start now
      refine ⟨⟨steps, positive, counted ▸ numbered⟩, ?_, ?_⟩
      · rw [Date.lt_iff, numbered]
        exact reached
      · intro date member after
        rw [Date.le_iff, numbered]
        exact earliest member after
  | none =>
      -- The first multiple is off the calendar, so every later one is, too.
      intro date member after
      have offCalendar := Date.ofNumber?_eq_none_iff.mp found
      have onCalendar := Date.exists_number_eq_iff.mp ⟨date, rfl⟩
      have nowOnCalendar := Date.exists_number_eq_iff.mp ⟨now, rfl⟩
      have below := earliest member after
      omega

end Daily

section Yearly

variable {start now date candidate : Date} {year : Int}

/-- An occurrence of a yearly rule is the anniversary of its year. -/
theorem eq_anniversary
    (found : start.anniversary? year = some candidate)
    (member : date ∈ Rule.yearly.occurrences start)
    (inYear : date.year = year) :
    date = candidate := by
  have anniversary := member.2
  rw [inYear, found] at anniversary
  exact (Option.some.inj anniversary).symm

/-- The anniversary of a year is not after any occurrence from that year on. -/
theorem anniversary_le
    (found : start.anniversary? year = some candidate)
    (member : date ∈ Rule.yearly.occurrences start)
    (fromYear : year ≤ date.year) :
    candidate ≤ date := by
  rcases Int.lt_or_eq_of_le fromYear with later | inYear
  · rw [← Date.year_of_anniversary? found] at later
    exact Int.le_of_lt (Date.lt_of_year_lt later)
  · rw [eq_anniversary found member inYear.symm]
    exact Int.le_refl candidate.number

/-- From a year without anniversary on, nothing occurs. -/
theorem year_lt_of_anniversary?_eq_none
    (missing : start.anniversary? year = none)
    (positive : 1 ≤ year)
    (date : Date) :
    date.year < year := by
  have outOfRange := Date.anniversary?_eq_none_iff.mp missing
  have range := date.year_range
  omega

/-- An occurrence of a yearly rule after `now` is in the first year searched or later. -/
theorem searchedYear_le
    (member : date ∈ Rule.yearly.occurrences start)
    (after : now < date) :
    max (start.year + 1) now.year ≤ date.year :=
  Int.max_le.mpr ⟨member.1, Date.year_le_of_lt after⟩

/-- A yearly rule finds the first anniversary after the reference. -/
theorem findsSuccessor_advanceYearly
    (start now : Date) :
    FindsSuccessor (Rule.yearly.occurrences start) now (advanceYearly start now) := by
  have startRange := start.year_range
  have nowSearched : now.year ≤ max (start.year + 1) now.year := Int.le_max_right _ _
  have startSearched : start.year + 1 ≤ max (start.year + 1) now.year := Int.le_max_left _ _
  rw [advanceYearly]
  cases found : start.anniversary? (max (start.year + 1) now.year) with
  | none =>
      intro date member after
      have searched := searchedYear_le member after
      have before := year_lt_of_anniversary?_eq_none found (by omega) date
      omega
  | some candidate =>
      have candidateYear := Date.year_of_anniversary? found
      by_cases ahead : now < candidate
      · simp only [ahead, ↓reduceIte]
        refine ⟨⟨by omega, candidateYear ▸ found⟩, ahead, ?_⟩
        intro date member after
        exact anniversary_le found member (searchedYear_le member after)
      · -- The anniversary of this year has passed, so the next one is a year later.
        have laterYear :
            ∀ {date}, date ∈ Rule.yearly.occurrences start → now < date →
              max (start.year + 1) now.year + 1 ≤ date.year := by
          intro date member after
          have searched := searchedYear_le member after
          have otherYear : date.year ≠ max (start.year + 1) now.year := by
            intro inYear
            rw [eq_anniversary found member inYear] at after
            exact ahead after
          omega
        simp only [ahead, ↓reduceIte]
        cases next : start.anniversary? (max (start.year + 1) now.year + 1) with
        | none =>
            intro date member after
            have searched := laterYear member after
            have before := year_lt_of_anniversary?_eq_none next (by omega) date
            omega
        | some following =>
            have followingYear := Date.year_of_anniversary? next
            refine ⟨⟨by omega, followingYear ▸ next⟩, Date.lt_of_year_lt (by omega), ?_⟩
            intro date member after
            exact anniversary_le next member (laterYear member after)

end Yearly

section Windows

variable {days : List Date} {dates : Set Date} {now next : Date} {onRule : Date → Bool}

/-- The first day of a window that is on the rule and after `now` is the successor. -/
theorem isSuccessor_of_find?
    (ascending : days.Pairwise (· < ·))
    (window : ∀ {date}, date ∈ dates ↔ date ∈ days ∧ onRule date = true)
    (found : (days.find? fun date => onRule date && decide (now < date)) = some next) :
    IsSuccessor dates now next := by
  have accepted := List.find?_some found
  simp only [Bool.and_eq_true, decide_eq_true_eq] at accepted
  refine ⟨window.mpr ⟨List.mem_of_find?_eq_some found, accepted.1⟩, accepted.2, ?_⟩
  intro date member after
  obtain ⟨inWindow, matching⟩ := window.mp member
  exact Date.le_of_find?_eq_some ascending found inWindow (by simp [matching, after])

/-- If no day of a window is on the rule and after `now`, there is no successor. -/
theorem not_lt_of_find?_eq_none
    (window : ∀ {date}, date ∈ dates ↔ date ∈ days ∧ onRule date = true)
    (missing : (days.find? fun date => onRule date && decide (now < date)) = none) :
    ∀ date ∈ dates, ¬ now < date := by
  intro date member after
  obtain ⟨inWindow, matching⟩ := window.mp member
  have refused := List.find?_eq_none.mp missing date inWindow
  simp [matching, after] at refused

end Windows

theorem mem_occurrences_weekly
    {rule : Weekly}
    {start date : Date} :
    date ∈ (Rule.weekly rule).occurrences start ↔
      date ∈ start.daysFrom weeklyWindow ∧ rule.matchesWeekday date = true := by
  rw [Date.mem_daysFrom_iff, and_assoc]
  exact Iff.rfl

theorem mem_occurrences_monthly
    {rule : Monthly}
    {start date : Date} :
    date ∈ (Rule.monthly rule).occurrences start ↔
      date ∈ start.daysAfter monthlyWindow ∧ rule.matchesDate date = true := by
  rw [Date.mem_daysAfter_iff, and_assoc]
  exact Iff.rfl

/-- A weekly rule finds the first matching day of its window after the reference. -/
theorem Weekly.findsSuccessor_advance
    (rule : Weekly)
    (start now : Date) :
    FindsSuccessor ((Rule.weekly rule).occurrences start) now (rule.advance start now) := by
  rw [advance]
  cases found : (start.daysFrom weeklyWindow).find?
      fun date => rule.matchesWeekday date && decide (now < date) with
  | some next =>
      exact isSuccessor_of_find?
        (start.pairwise_daysFrom weeklyWindow) mem_occurrences_weekly found
  | none =>
      have noneAfter := not_lt_of_find?_eq_none mem_occurrences_weekly found
      simp only
      split <;> exact noneAfter

/-- A monthly rule finds the first matching day of its window after the reference. -/
theorem Monthly.findsSuccessor_advance
    (rule : Monthly)
    (start now : Date) :
    FindsSuccessor ((Rule.monthly rule).occurrences start) now (rule.advance start now) := by
  rw [advance]
  cases found : (start.daysAfter monthlyWindow).find?
      fun date => rule.matchesDate date && decide (now < date) with
  | some next =>
      exact isSuccessor_of_find?
        (start.pairwise_daysAfter monthlyWindow) mem_occurrences_monthly found
  | none =>
      have noneAfter := not_lt_of_find?_eq_none mem_occurrences_monthly found
      simp only
      split <;> exact noneAfter

/-- The failure of a rule that has no next date.  It does not depend on the reference. -/
def Rule.failure (rule : Rule) (start : Date) : NoMatch :=
  match rule with
  | .daily _ | .yearly => .offCalendar
  | .weekly rule =>
      if Date.lastNumber < start.number + weeklyWindow then
        .offCalendar
      else
        .weekdays rule start
  | .monthly rule =>
      if Date.lastNumber < start.number + monthlyWindow then
        .offCalendar
      else
        .monthDays rule start

section Failures

variable {start now : Date} {cause : NoMatch}

theorem orOffCalendar_eq_error
    {found : Option Date}
    (failed : orOffCalendar found = .error cause) :
    cause = .offCalendar := by
  cases found with
  | none => exact (Except.error.inj failed).symm
  | some date => cases failed

theorem advanceYearly_eq_error
    (failed : advanceYearly start now = .error cause) :
    cause = .offCalendar := by
  unfold advanceYearly at failed
  simp only at failed
  split at failed
  · exact (Except.error.inj failed).symm
  · split at failed
    · cases failed
    · exact orOffCalendar_eq_error failed

/-- A search through a window is off the calendar if the day after the window is. -/
theorem eq_of_windowFailure
    {window : Nat}
    {exhausted : NoMatch}
    (failed :
      (match start.addDays? window with
        | some _ => Except.error exhausted
        | none => Except.error NoMatch.offCalendar : Except NoMatch Date) = .error cause) :
    cause =
      if Date.lastNumber < start.number + window then .offCalendar else exhausted := by
  have onCalendar := Date.exists_number_eq_iff.mp ⟨start, rfl⟩
  cases shape : start.addDays? window with
  | none =>
      have past := Date.ofNumber?_eq_none_iff.mp shape
      rw [shape] at failed
      rw [if_pos (by omega)]
      exact (Except.error.inj failed).symm
  | some following =>
      have numbered := Date.ofNumber?_eq_some_iff.mp shape
      have within := Date.exists_number_eq_iff.mp ⟨following, numbered⟩
      rw [shape] at failed
      rw [if_neg (by omega)]
      exact (Except.error.inj failed).symm

theorem Weekly.advance_eq_error
    {rule : Weekly}
    (failed : rule.advance start now = .error cause) :
    cause = (Rule.weekly rule).failure start := by
  unfold advance at failed
  simp only at failed
  split at failed
  · cases failed
  · exact eq_of_windowFailure failed

theorem Monthly.advance_eq_error
    {rule : Monthly}
    (failed : rule.advance start now = .error cause) :
    cause = (Rule.monthly rule).failure start := by
  unfold advance at failed
  simp only at failed
  split at failed
  · cases failed
  · exact eq_of_windowFailure failed

end Failures

namespace Rule

variable {rule : Rule} {start now : Date} {cause : NoMatch}

/-- The search for the next date of a rule finds the successor among its occurrences. -/
theorem findsSuccessor_advance
    (rule : Rule)
    (start now : Date) :
    FindsSuccessor (rule.occurrences start) now (rule.advance start now) := by
  cases rule with
  | daily rule => exact rule.findsSuccessor_advance start now
  | yearly => exact findsSuccessor_advanceYearly start now
  | weekly rule => exact rule.findsSuccessor_advance start now
  | monthly rule => exact rule.findsSuccessor_advance start now

/-- A search fails in one way only, whatever the reference. -/
theorem advance_eq_error
    (failed : rule.advance start now = .error cause) :
    cause = rule.failure start := by
  cases rule with
  | daily rule => exact orOffCalendar_eq_error failed
  | yearly => exact advanceYearly_eq_error failed
  | weekly rule => exact Weekly.advance_eq_error failed
  | monthly rule => exact Monthly.advance_eq_error failed

end Rule

end Recurrence
