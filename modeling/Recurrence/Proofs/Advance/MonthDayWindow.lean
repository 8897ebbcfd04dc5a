import Recurrence.Proofs.Advance.DayScan
import Recurrence.Proofs.Advance.Failure

namespace Recurrence

/-!
# The window of a monthly rule

A monthly rule looks at the 1000 days after its start for one that it lists: by its
number, as the last day of its month or as the day before that.  It scans them in the
order of the calendar and steps on before every test.  Testing a day can need the end of
its month, which is always found, so the only thing that can go wrong is a step past the
last day of the calendar.
-/

namespace Monthly

/-- The rule recurs in a month; a rule without months recurs in all. -/
def Allows (rule : Monthly) (month : Nat) : Prop :=
  rule.months.toList = [] ∨ (month : Int) ∈ rule.months

/-- The rule lists a day of the month, by its number or by its place at the end. -/
def ListsDay (rule : Monthly) (date : Date) : Prop :=
  (date.day : Int) ∈ rule.days ∨
    (-1 ∈ rule.days ∧ date.day = monthLength date.year date.month) ∨
    (-2 ∈ rule.days ∧ date.day + 1 = monthLength date.year date.month)

instance (rule : Monthly) (month : Nat) : Decidable (rule.Allows month) :=
  inferInstanceAs (Decidable (_ ∨ _))

instance (rule : Monthly) (date : Date) : Decidable (rule.ListsDay date) :=
  inferInstanceAs (Decidable (_ ∨ _))

/-- The days of the window of a monthly rule that the rule lists. -/
def listedDays (rule : Monthly) (start : Date) : Set Date :=
  {date | start < date ∧ date.number ≤ start.number + 1000 ∧
    rule.Allows date.month ∧ rule.ListsDay date}

/-- Whether a date is so many days before the end of its month, if the rule asks for that. -/
def testFromEnd (rule : Monthly) (place : Int) (before : Nat) (date : Date) :
    Except StepError Bool :=
  if place ∈ rule.days then do
    let last ← date.countLastDay
    return date.day == last - before
  else
    return false

/-- Whether the rule lists the day of a date.  The month is counted only if need be. -/
def testDay (rule : Monthly) (date : Date) : Except StepError Bool :=
  if (date.day : Int) ∈ rule.days then
    return true
  else do
    if ← rule.testFromEnd (-1) 0 date then
      return true
    rule.testFromEnd (-2) 1 date

/-- The scan of a monthly rule: it steps on, from the start at first, and tests the day. -/
def scan (rule : Monthly) (start now : Date) : Except ScanFault Date :=
  stepThenTest
    (fun date => do
      let listed ← rule.testDay date
      return listed && rule.allowsMonth date.month && decide (now < date))
    1000 start

section Tests

variable {rule : Monthly} {date : Date}

theorem allowsMonth_eq_true_iff
    {month : Nat} :
    rule.allowsMonth month = true ↔ rule.Allows month := by
  simp [allowsMonth, Allows, IntegerSet.isEmpty]

theorem matchesDay_eq_true_iff :
    rule.matchesDay date = true ↔ rule.ListsDay date := by
  have positive := date.day_range.1
  have beforeLast :
      date.day = monthLength date.year date.month - 1 ↔
        date.day + 1 = monthLength date.year date.month := by
    omega
  simp [matchesDay, ListsDay, Date.isLastDayOfMonth, Date.isSecondToLastDayOfMonth,
    Date.lastDayOfMonth, beforeLast, or_assoc]

/-- A monthly rule recurs on the listed days of its window. -/
theorem occurrences_eq_listedDays
    (rule : Monthly)
    (start : Date) :
    (Rule.monthly rule).occurrences start = rule.listedDays start := by
  ext date
  have matching :
      rule.matchesDate date = true ↔ rule.Allows date.month ∧ rule.ListsDay date := by
    rw [matchesDate, Bool.and_eq_true, matchesDay_eq_true_iff, allowsMonth_eq_true_iff, and_comm]
  constructor
  · rintro ⟨afterStart, inWindow, onRule⟩
    exact ⟨afterStart, inWindow, matching.mp onRule⟩
  · rintro ⟨afterStart, inWindow, onRule⟩
    exact ⟨afterStart, inWindow, matching.mpr onRule⟩

theorem testFromEnd_eq
    (rule : Monthly)
    (place : Int)
    (before : Nat)
    (date : Date) :
    rule.testFromEnd place before date =
      .ok (decide (place ∈ rule.days) && date.day == date.lastDayOfMonth - before) := by
  by_cases asked : place ∈ rule.days
  · rw [testFromEnd, if_pos asked, date.countLastDay_eq, decide_eq_true asked]
    rfl
  · rw [testFromEnd, if_neg asked, decide_eq_false asked]
    rfl

/-- Testing a day succeeds for every date. -/
theorem testDay_eq
    (rule : Monthly)
    (date : Date) :
    rule.testDay date = .ok (rule.matchesDay date) := by
  rw [testDay, testFromEnd_eq, testFromEnd_eq]
  by_cases listed : (date.day : Int) ∈ rule.days
  · rw [if_pos listed, matchesDay, decide_eq_true listed]
    rfl
  · rw [if_neg listed, matchesDay, decide_eq_false listed]
    have lastPlace :
        (decide (-1 ∈ rule.days) && date.day == date.lastDayOfMonth - 0) =
          (decide (-1 ∈ rule.days) && date.isLastDayOfMonth) :=
      rfl
    rw [lastPlace]
    cases decide (-1 ∈ rule.days) && date.isLastDayOfMonth with
    | true => rfl
    | false => rfl

end Tests

section Scans

variable {rule : Monthly} {start now : Date}

theorem scan_eq_scanOutcome
    (rule : Monthly)
    (start now : Date) :
    rule.scan start now =
      scanOutcome
        ((start.daysAfter monthlyWindow).find? fun date =>
          rule.matchesDate date && decide (now < date))
        (start.number + monthlyWindow) := by
  apply stepThenTest_eq
  intro date
  rw [testDay_eq]
  rfl

/-- Advancing a monthly rule is its scan. -/
theorem advance_eq_scan
    (rule : Monthly)
    (start now : Date) :
    rule.advance start now =
      (rule.scan start now).mapError (ScanFault.cause (.monthDays rule start)) := by
  rw [scan_eq_scanOutcome]
  exact search_eq_scanOutcome _

theorem failure_of_within
    (within : start.number + 1000 ≤ Date.lastNumber) :
    (Rule.monthly rule).failure start = .monthDays rule start :=
  if_neg (Int.not_lt.mpr within)

end Scans

end Monthly

/--
A monthly rule advances to the first day after the reference, from the day after its
start to 1000 days later, that the rule lists; its start is never that day.  If there is
none, it fails: for leaving the calendar if the last day of its window is past the last
day of the calendar, and for finding nothing in its window otherwise.  All this is what a
scan of 1000 tests comes to.  A test never fails: it tells whether the rule lists the
day.  So the only fault that a step of the scan brings is leaving the calendar.
-/
theorem advanceRule_monthly_window
    (rule : Monthly)
    (start now : Moment) :
    (∀ next, advanceRule (some (.monthly rule)) start now = .ok next ↔
        IsSuccessor (rule.listedDays start.date) now.date next) ∧
      advanceRule (some (.monthly rule)) start now ≠ .ok start.date ∧
      (∀ error, advanceRule (some (.monthly rule)) start now = .error error ↔
        (∀ date ∈ rule.listedDays start.date, ¬ now.date < date) ∧
          error = .noMatch
            (if Date.lastNumber < start.date.number + 1000 then
              .offCalendar
            else
              .monthDays rule start.date)) ∧
      (∀ error, advanceRule (some (.monthly rule)) start now = .error error →
        (error.message = "next date is out of the supported date range" ↔
            Date.lastNumber < start.date.number + 1000) ∧
          (start.date.number + 1000 ≤ Date.lastNumber →
            error.message =
              "no date matching '" ++ String.ofList (Rule.monthly rule).toText ++
                "' found within 1000 days of " ++ String.ofList start.date.iso)) ∧
      advanceRule (some (.monthly rule)) start now =
        (rule.scan start.date now.date).mapError
          (fun fault => .noMatch (fault.cause (.monthDays rule start.date))) ∧
      (∀ error, rule.scan start.date now.date = .error (.step error) → error = .dateRange) ∧
      (∀ date, ∃ listed, rule.testDay date = .ok listed ∧
        (listed = true ↔ rule.ListsDay date)) := by
  have sameDays := rule.occurrences_eq_listedDays start.date
  have found :
      ∀ {next}, advanceRule (some (.monthly rule)) start now = .ok next ↔
        IsSuccessor (rule.listedDays start.date) now.date next := by
    intro next
    exact advanceRule_eq_ok_iff_of_eq sameDays
  have failed :
      ∀ {error}, advanceRule (some (.monthly rule)) start now = .error error ↔
        (∀ date ∈ rule.listedDays start.date, ¬ now.date < date) ∧
          error = .noMatch ((Rule.monthly rule).failure start.date) := by
    intro error
    exact advanceRule_eq_failure_iff_of_eq sameDays
  refine ⟨fun next => found, ?neverStart, fun error => failed, ?wording, ?scanned, ?faults,
    ?tests⟩
  case neverStart =>
    intro advanced
    have afterItself : start.date < start.date := (found.mp advanced).member.1
    exact Int.lt_irrefl start.date.number afterItself
  case wording =>
    intro error advanced
    obtain ⟨_, rfl⟩ := failed.mp advanced
    constructor
    · exact NoMatch.message_choice_iff NoMatch.noConfusion
    · intro within
      rw [Monthly.failure_of_within within]
      exact NoMatch.message_monthDays rule start.date
  case scanned =>
    exact advanceRule_eq_of_scan (rule.advance_eq_scan start.date now.date)
  case faults =>
    intro error stepped
    rw [Monthly.scan_eq_scanOutcome] at stepped
    exact eq_dateRange_of_scanOutcome stepped
  case tests =>
    intro date
    exact ⟨rule.matchesDay date, rule.testDay_eq date, Monthly.matchesDay_eq_true_iff⟩

/-- The monthly rule of the last days of all months. -/
def lastDays : Monthly :=
  ⟨.ofList [-1], .empty, by decide, by decide, by decide⟩

/-- 1 December 9999. -/
def firstOfLastMonth : Date :=
  .ofParts 9999 12 1 (by decide)

/-- 31 December 2026, more than 1000 days after 29 February 2024. -/
def endOf2026 : Date :=
  .ofParts 2026 12 31 (by decide)

/--
The last day of December 9999 is found by counting that month.  Past the window of a
start that is a last day itself there is nothing.
-/
theorem advanceRule_monthly_window_lastDays :
    (endOfCalendar ∈ lastDays.listedDays firstOfLastMonth ∧
        advanceRule (some (.monthly lastDays)) (.day firstOfLastMonth) (.day dayBeforeTheEnd) =
          .ok endOfCalendar) ∧
      (lastDays.ListsDay leapDay ∧
        leapDay.number + 1000 ≤ Date.lastNumber ∧
        ∃ error,
          advanceRule (some (.monthly lastDays)) (.day leapDay) (.day endOf2026) =
              .error error ∧
            error.message = "no date matching 'm -1' found within 1000 days of 2024-02-29") := by
  constructor
  · obtain ⟨found, _⟩ :=
      advanceRule_monthly_window lastDays (.day firstOfLastMonth) (.day dayBeforeTheEnd)
    have member : endOfCalendar ∈ lastDays.listedDays firstOfLastMonth :=
      ⟨by decide, by decide, by decide, by decide⟩
    refine ⟨member, (found endOfCalendar).mpr ⟨member, by decide, ?_⟩⟩
    intro date _ after
    exact Int.add_one_le_of_lt after
  · obtain ⟨_, _, failed, wording, _⟩ :=
      advanceRule_monthly_window lastDays (.day leapDay) (.day endOf2026)
    have within : leapDay.number + 1000 ≤ Date.lastNumber := by decide
    have noneAfter : ∀ date ∈ lastDays.listedDays leapDay, ¬ endOf2026 < date := by
      rintro date ⟨_, inWindow, _⟩ after
      have past : leapDay.number + 1000 < endOf2026.number := by decide
      exact Int.not_lt.mpr inWindow (Int.lt_trans past after)
    have advanced := (failed _).mpr ⟨noneAfter, rfl⟩
    obtain ⟨_, worded⟩ := wording _ advanced
    exact ⟨by decide, within, _, advanced, (worded within).trans rfl⟩

end Recurrence
