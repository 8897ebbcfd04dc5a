import Recurrence.Proofs.Advance.DayScan
import Recurrence.Proofs.Advance.Failure

namespace Recurrence

/-!
# The window of a weekly rule

A weekly rule looks at 730 days, the first of which is its start, for one on a day of
the week of the rule.  It scans them in the order of the calendar and steps on after
every test.  So the step after the last test can leave the calendar: this decides how a
rule that finds nothing fails, and it takes no date from a rule that finds one.
-/

/-- The days of the window of a weekly rule that are on a day of the week of the rule. -/
def Weekly.listedDays (rule : Weekly) (start : Date) : Set Date :=
  {date | start ≤ date ∧ date.number ≤ start.number + 729 ∧ date.weekday ∈ rule.weekdays}

/-- The scan of a weekly rule: it tests a day, its start at first, and then steps on. -/
def Weekly.scan (rule : Weekly) (start now : Date) : Except ScanFault Date :=
  testThenStep (fun date => .ok (decide (date.weekday ∈ rule.weekdays) && decide (now < date)))
    730 start

namespace Weekly

variable {rule : Weekly} {start now : Date}

/-- A weekly rule recurs on the listed days of its window. -/
theorem occurrences_eq_listedDays
    (rule : Weekly)
    (start : Date) :
    (Rule.weekly rule).occurrences start = rule.listedDays start := by
  ext date
  constructor
  · rintro ⟨fromStart, inWindow, matching⟩
    have lastDay : date.number ≤ start.number + 729 := by
      rw [weeklyWindow] at inWindow
      omega
    exact ⟨fromStart, lastDay, of_decide_eq_true matching⟩
  · rintro ⟨fromStart, lastDay, listed⟩
    have inWindow : date.number < start.number + weeklyWindow := by
      rw [weeklyWindow]
      omega
    exact ⟨fromStart, inWindow, decide_eq_true listed⟩

theorem scan_eq_scanOutcome
    (rule : Weekly)
    (start now : Date) :
    rule.scan start now =
      scanOutcome
        ((start.daysFrom weeklyWindow).find? fun date =>
          rule.matchesWeekday date && decide (now < date))
        (start.number + weeklyWindow) :=
  testThenStep_eq (fun _ => rfl) 730 start

/-- Advancing a weekly rule is its scan. -/
theorem advance_eq_scan
    (rule : Weekly)
    (start now : Date) :
    rule.advance start now =
      (rule.scan start now).mapError (ScanFault.cause (.weekdays rule start)) := by
  rw [scan_eq_scanOutcome]
  exact search_eq_scanOutcome _

theorem failure_of_within
    (within : start.number + 730 ≤ Date.lastNumber) :
    (Rule.weekly rule).failure start = .weekdays rule start :=
  if_neg (Int.not_lt.mpr within)

/-- A start after the reference, on a day of the week of the rule, is the first such day. -/
theorem isSuccessor_start
    (after : now < start)
    (listed : start.weekday ∈ rule.weekdays) :
    IsSuccessor (rule.listedDays start) now start where
  member := ⟨Int.le_refl start.number, Int.le_add_of_nonneg_right (by decide), listed⟩
  after := after
  first member _ := member.1

end Weekly

/--
A weekly rule advances to the first day after the reference, from its start to 729 days
later, that is on a day of the week of the rule; its start can be that day.  If there is
none, it fails: for leaving the calendar if the day 730 days after its start is past
the last day, and for finding nothing in its window otherwise.  All this is what a scan
of 730 tests comes to, and the only fault that a step of the scan brings is leaving the
calendar.
-/
theorem advanceRule_weekly_window
    (rule : Weekly)
    (start now : Moment) :
    (∀ next, advanceRule (some (.weekly rule)) start now = .ok next ↔
        IsSuccessor (rule.listedDays start.date) now.date next) ∧
      (∀ date ∈ rule.listedDays start.date, now.date < date →
        ∃ next, advanceRule (some (.weekly rule)) start now = .ok next ∧ next ≤ date) ∧
      (now.date < start.date → start.date.weekday ∈ rule.weekdays →
        advanceRule (some (.weekly rule)) start now = .ok start.date) ∧
      (∀ error, advanceRule (some (.weekly rule)) start now = .error error ↔
        (∀ date ∈ rule.listedDays start.date, ¬ now.date < date) ∧
          error = .noMatch
            (if Date.lastNumber < start.date.number + 730 then
              .offCalendar
            else
              .weekdays rule start.date)) ∧
      (∀ error, advanceRule (some (.weekly rule)) start now = .error error →
        (error.message = "next date is out of the supported date range" ↔
            Date.lastNumber < start.date.number + 730) ∧
          (start.date.number + 730 ≤ Date.lastNumber →
            error.message =
              "no date matching weekdays " ++ NoMatch.bracketed rule.weekdays ++
                " found within 730 days of " ++ String.ofList start.date.iso)) ∧
      advanceRule (some (.weekly rule)) start now =
        (rule.scan start.date now.date).mapError
          (fun fault => .noMatch (fault.cause (.weekdays rule start.date))) ∧
      (∀ error, rule.scan start.date now.date = .error (.step error) → error = .dateRange) := by
  have sameDays := rule.occurrences_eq_listedDays start.date
  have found :
      ∀ {next}, advanceRule (some (.weekly rule)) start now = .ok next ↔
        IsSuccessor (rule.listedDays start.date) now.date next := by
    intro next
    exact advanceRule_eq_ok_iff_of_eq sameDays
  have failed :
      ∀ {error}, advanceRule (some (.weekly rule)) start now = .error error ↔
        (∀ date ∈ rule.listedDays start.date, ¬ now.date < date) ∧
          error = .noMatch ((Rule.weekly rule).failure start.date) := by
    intro error
    exact advanceRule_eq_failure_iff_of_eq sameDays
  refine ⟨fun next => found, ?neverHidden, ?fromStart, fun error => failed, ?wording, ?scanned,
    ?faults⟩
  case neverHidden =>
    intro date member after
    rw [← sameDays] at member
    obtain ⟨next, advanced⟩ := exists_advanceRule_iff.mpr ⟨date, member, after⟩
    exact ⟨next, advanced, (found.mp advanced).first (sameDays ▸ member) after⟩
  case fromStart =>
    intro after listed
    exact found.mpr (Weekly.isSuccessor_start after listed)
  case wording =>
    intro error advanced
    obtain ⟨_, rfl⟩ := failed.mp advanced
    constructor
    · exact NoMatch.message_choice_iff NoMatch.noConfusion
    · intro within
      rw [Weekly.failure_of_within within]
      exact NoMatch.message_weekdays rule start.date
  case scanned =>
    exact advanceRule_eq_of_scan (rule.advance_eq_scan start.date now.date)
  case faults =>
    intro error stepped
    rw [Weekly.scan_eq_scanOutcome] at stepped
    exact eq_dateRange_of_scanOutcome stepped

/-- The weekly rule of Fridays. -/
def fridays : Weekly :=
  ⟨.ofList [5], by decide, by decide⟩

/-- 1 January 9998: the calendar ends 729 days later. -/
def twoYearsBeforeTheEnd : Date :=
  .ofParts 9998 1 1 (by decide)

/-- 5 January 2024, a Friday. -/
def firstFriday : Date :=
  .ofParts 2024 1 5 (by decide)

/-- 3 January 2026, the last day of the window of the first Friday of 2024. -/
def endOfWindow : Date :=
  .ofParts 2026 1 3 (by decide)

/--
The last day of the calendar is found although the scan cannot step on after it, and
past that day the rule leaves the calendar.  A start on a Friday is found from the day
before it, and past the end of its window the rule finds nothing.
-/
theorem advanceRule_weekly_window_fridays :
    (endOfCalendar ∈ fridays.listedDays twoYearsBeforeTheEnd ∧ dayBeforeTheEnd < endOfCalendar ∧
        advanceRule (some (.weekly fridays)) (.day twoYearsBeforeTheEnd) (.day dayBeforeTheEnd) =
          .ok endOfCalendar) ∧
      (advanceRule (some (.weekly fridays)) (.day twoYearsBeforeTheEnd) (.day endOfCalendar) =
          .error (.noMatch .offCalendar) ∧
        fridays.scan twoYearsBeforeTheEnd endOfCalendar = .error (.step .dateRange)) ∧
      (firstFriday.weekday ∈ fridays.weekdays ∧
        advanceRule (some (.weekly fridays)) (.day firstFriday)
            (.day ⟨2024, 1, 4, by decide, by decide, by decide⟩) =
          .ok firstFriday) ∧
      (firstFriday.number + 730 ≤ Date.lastNumber ∧
        ∃ error,
          advanceRule (some (.weekly fridays)) (.day firstFriday) (.day endOfWindow) =
              .error error ∧
            error.message =
              "no date matching weekdays [5] found within 730 days of 2024-01-05") := by
  refine ⟨?lastDay, ?pastLastDay, ?ownStart, ?pastWindow⟩
  case lastDay =>
    have member : endOfCalendar ∈ fridays.listedDays twoYearsBeforeTheEnd :=
      ⟨by decide, by decide, by decide⟩
    have ahead : dayBeforeTheEnd < endOfCalendar := by decide
    obtain ⟨found, neverHidden, _⟩ :=
      advanceRule_weekly_window fridays (.day twoYearsBeforeTheEnd) (.day dayBeforeTheEnd)
    obtain ⟨next, advanced, _⟩ := neverHidden endOfCalendar member ahead
    have after : dayBeforeTheEnd.number < next.number := ((found next).mp advanced).after
    have last : Date.lastNumber ≤ next.number := after
    exact ⟨member, ahead, eq_endOfCalendar last ▸ advanced⟩
  case pastLastDay =>
    obtain ⟨_, _, _, failed, _, scanned, faults⟩ :=
      advanceRule_weekly_window fridays (.day twoYearsBeforeTheEnd) (.day endOfCalendar)
    have noneAfter :
        ∀ date ∈ fridays.listedDays twoYearsBeforeTheEnd, ¬ endOfCalendar < date :=
      fun date _ => Int.not_lt.mpr date.number_range.2
    have advanced := (failed _).mpr ⟨noneAfter, rfl⟩
    obtain ⟨fault, stepped, told⟩ := mapError_eq_error_iff.mp (scanned.symm.trans advanced)
    refine ⟨advanced, ?_⟩
    cases fault with
    | windowExhausted => cases told
    | step error =>
        cases faults error stepped
        exact stepped
  case ownStart =>
    have listed : firstFriday.weekday ∈ fridays.weekdays := by decide
    obtain ⟨_, _, fromStart, _⟩ :=
      advanceRule_weekly_window fridays (.day firstFriday)
        (.day ⟨2024, 1, 4, by decide, by decide, by decide⟩)
    exact ⟨listed, fromStart (by decide) listed⟩
  case pastWindow =>
    have within : firstFriday.number + 730 ≤ Date.lastNumber := by decide
    obtain ⟨_, _, _, failed, wording, _⟩ :=
      advanceRule_weekly_window fridays (.day firstFriday) (.day endOfWindow)
    have noneAfter : ∀ date ∈ fridays.listedDays firstFriday, ¬ endOfWindow < date := by
      rintro date ⟨_, inWindow, _⟩
      exact Int.not_lt.mpr inWindow
    have advanced := (failed _).mpr ⟨noneAfter, rfl⟩
    obtain ⟨_, worded⟩ := wording _ advanced
    exact ⟨within, _, advanced, (worded within).trans rfl⟩

end Recurrence
