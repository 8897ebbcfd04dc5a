import Recurrence.Proofs.Advance.WeekdayWindow
import Recurrence.Rule.Grammar

namespace Recurrence

/-!
# The reach of weekly rules

Seven consecutive days are on the seven days of the week, each on one of its own.  So while
the window of a weekly rule and the calendar have seven days left, the rule advances to one
of these days, whatever days of the week it lists.  As soon as they have fewer days left,
some day of the week is not among them, and the rule of that day alone fails.
-/

/-- The day of the week of the day with a number, which need not be on the calendar. -/
def weekdayOfNumber (number : Int) : Int :=
  (number - 1) % 7 + 1

theorem isWeekday_weekdayOfNumber
    (number : Int) :
    IsWeekday (weekdayOfNumber number) := by
  unfold IsWeekday weekdayOfNumber
  omega

section Weeks

variable {first day : Int}

/-- Every day of the week is the one of some day of seven consecutive ones. -/
theorem exists_weekdayOfNumber_eq
    (isWeekday : IsWeekday day)
    (first : Int) :
    ∃ number, first ≤ number ∧ number ≤ first + 6 ∧ weekdayOfNumber number = day := by
  obtain ⟨monday, sunday⟩ := isWeekday
  have wait : 0 ≤ (day - first) % 7 ∧ (day - first) % 7 < 7 := by omega
  refine ⟨first + (day - first) % 7, by omega, by omega, ?_⟩
  unfold weekdayOfNumber
  omega

/-- No two of seven consecutive days are on the same day of the week. -/
theorem weekdayOfNumber_ne
    {earlier later : Int}
    (before : earlier < later)
    (near : later ≤ earlier + 6) :
    weekdayOfNumber earlier ≠ weekdayOfNumber later := by
  unfold weekdayOfNumber
  omega

/-- Every day of the week is the one of some date among seven consecutive ones. -/
theorem Date.exists_weekday_within
    (isWeekday : IsWeekday day)
    (positive : 1 ≤ first)
    (onCalendar : first + 6 ≤ Date.lastNumber) :
    ∃ date : Date, first ≤ date.number ∧ date.number ≤ first + 6 ∧ date.weekday = day := by
  obtain ⟨number, fromFirst, within, onDay⟩ := exists_weekdayOfNumber_eq isWeekday first
  obtain ⟨date, rfl⟩ :=
    Date.exists_number_eq_iff.mpr
      ⟨Int.le_trans positive fromFirst, Int.le_trans within onCalendar⟩
  exact ⟨date, fromFirst, within, onDay⟩

end Weeks

namespace Weekly

/-- The weekly rule of a single day of the week. -/
def onlyOn (day : Int) (isWeekday : IsWeekday day) : Weekly where
  weekdays := .ofList [day]
  weekdays_ne_nil := IntegerSet.toList_ofList_ne_nil (List.cons_ne_nil _ _)
  weekdays_range := by
    intro weekday member
    rw [List.mem_singleton.mp member]
    exact isWeekday

/--
The weekly rule of the day that comes just too late: it follows the last day on which a rule
with that start can recur, which ends its window or the calendar.
-/
def tooLate (start : Date) : Weekly :=
  onlyOn (weekdayOfNumber (min (start.number + 729) Date.lastNumber + 1))
    (isWeekday_weekdayOfNumber _)

variable {start now : Date}

/-- With seven days left, a weekly rule lists one of them. -/
theorem exists_listed_within
    (rule : Weekly)
    (weekLeft :
      max start.number (now.number + 1) + 6 ≤ min (start.number + 729) Date.lastNumber) :
    ∃ date ∈ rule.listedDays start, now < date ∧
      date.number ≤ max start.number (now.number + 1) + 6 := by
  obtain ⟨inWindow, onCalendar⟩ := Int.le_min.mp weekLeft
  have fromStart := Int.le_max_left start.number (now.number + 1)
  have fromNow := Int.le_max_right start.number (now.number + 1)
  obtain ⟨day, listed⟩ := List.exists_mem_of_ne_nil _ rule.weekdays_ne_nil
  obtain ⟨date, fromFirst, within, onDay⟩ :=
    Date.exists_weekday_within (rule.weekdays_range day listed)
      (Int.le_trans start.number_range.1 fromStart) onCalendar
  have member : date ∈ rule.listedDays start :=
    ⟨Int.le_trans fromStart fromFirst, Int.le_trans within inWindow, onDay ▸ listed⟩
  exact ⟨date, member, Int.le_trans fromNow fromFirst, within⟩

/-- With fewer days left, none of them is on the day of the week that comes just too late. -/
theorem not_lt_of_tooLate
    (noWeekLeft :
      min (start.number + 729) Date.lastNumber < max start.number (now.number + 1) + 6)
    {date : Date}
    (listed : date ∈ (tooLate start).listedDays start) :
    ¬ now < date := by
  obtain ⟨fromStart, inWindow, onDay⟩ := listed
  have lastLeft : date.number ≤ min (start.number + 729) Date.lastNumber :=
    Int.le_min.mpr ⟨inWindow, date.number_range.2⟩
  intro after
  have fromFirst : max start.number (now.number + 1) ≤ date.number :=
    Int.max_le.mpr ⟨fromStart, after⟩
  have otherDay :
      date.weekday ≠ weekdayOfNumber (min (start.number + 729) Date.lastNumber + 1) :=
    weekdayOfNumber_ne (Int.lt_add_one_of_le lastLeft) (by omega)
  exact otherDay (List.mem_singleton.mp onDay)

/-- At the end of the window nothing is left. -/
theorem not_lt_of_endOfWindow
    {rule : Weekly}
    (ended : start.number + 729 ≤ now.number)
    {date : Date}
    (listed : date ∈ rule.listedDays start) :
    ¬ now < date :=
  Int.not_lt.mpr (Int.le_trans listed.2.1 ended)

end Weekly

/--
Which weekly rules advance.  All of them do, and within seven days, if their window and the
calendar have seven days left from the start and from the day after the reference on; then
the reference is at most 722 days after the start.  This cannot be bettered: from 723 days
after the start on, or when the calendar has no seven days left, some rule of a single day of
the week fails, and from 729 days after the start on every rule does.
-/
theorem advanceRule_weekly_reach
    (start now : Moment) :
    (max start.date.number (now.date.number + 1) + 6 ≤
          min (start.date.number + 729) Date.lastNumber →
        now.date.number ≤ start.date.number + 722 ∧
          ∀ rule : Weekly, ∃ next,
            advanceRule (some (.weekly rule)) start now = .ok next ∧
              next.number ≤ max start.date.number (now.date.number + 1) + 6) ∧
      (start.date.number + 723 ≤ now.date.number ∨
          Date.lastNumber < max start.date.number (now.date.number + 1) + 6 →
        ∃ (rule : Weekly) (day : Int), rule.weekdays.toList = [day] ∧
          advanceRule (some (.weekly rule)) start now =
            .error (.noMatch ((Rule.weekly rule).failure start.date))) ∧
      (start.date.number + 729 ≤ now.date.number →
        ∀ rule : Weekly,
          advanceRule (some (.weekly rule)) start now =
            .error (.noMatch ((Rule.weekly rule).failure start.date))) := by
  have failed {rule : Weekly} :
      (∀ date ∈ rule.listedDays start.date, ¬ now.date < date) →
        advanceRule (some (.weekly rule)) start now =
          .error (.noMatch ((Rule.weekly rule).failure start.date)) := by
    intro noneAfter
    exact (advanceRule_eq_failure_iff_of_eq (rule.occurrences_eq_listedDays start.date)).mpr
      ⟨noneAfter, rfl⟩
  refine ⟨?reached, ?sharp, ?ended⟩
  case reached =>
    intro weekLeft
    refine ⟨by omega, fun rule => ?_⟩
    obtain ⟨date, member, after, within⟩ := rule.exists_listed_within weekLeft
    rw [← rule.occurrences_eq_listedDays] at member
    obtain ⟨next, advanced, notLater⟩ := exists_advanceRule_le member after
    exact ⟨next, advanced, Int.le_trans notLater within⟩
  case sharp =>
    intro short
    have noWeekLeft :
        min (start.date.number + 729) Date.lastNumber <
          max start.date.number (now.date.number + 1) + 6 := by
      omega
    exact ⟨.tooLate start.date, _, rfl,
      failed fun date listed => Weekly.not_lt_of_tooLate noWeekLeft listed⟩
  case ended =>
    intro ended rule
    exact failed fun date listed => Weekly.not_lt_of_endOfWindow ended listed

/-- 27 December 2025, 722 days after the first Friday of 2024. -/
def weekBeforeTheEndOfWindow : Date :=
  .ofParts 2025 12 27 (by decide)

/-- 28 December 2025. -/
def sixDaysBeforeTheEndOfWindow : Date :=
  .ofParts 2025 12 28 (by decide)

/--
A week before the end of its window a rule of Fridays still advances, and within that week.
A day later there is a rule that fails, as there is on the last day but one of the calendar,
and at the end of the window the rule of Fridays fails, too.
-/
theorem advanceRule_weekly_reach_fridays :
    (max firstFriday.number (weekBeforeTheEndOfWindow.number + 1) + 6 ≤
          min (firstFriday.number + 729) Date.lastNumber ∧
        ∃ next,
          advanceRule (some (.weekly fridays)) (.day firstFriday) (.day weekBeforeTheEndOfWindow) =
              .ok next ∧
            next.number ≤ weekBeforeTheEndOfWindow.number + 7) ∧
      (firstFriday.number + 723 ≤ sixDaysBeforeTheEndOfWindow.number ∧
        ∃ (rule : Weekly) (day : Int), rule.weekdays.toList = [day] ∧
          advanceRule (some (.weekly rule)) (.day firstFriday)
              (.day sixDaysBeforeTheEndOfWindow) =
            .error (.noMatch ((Rule.weekly rule).failure firstFriday))) ∧
      (Date.lastNumber < max dayBeforeTheEnd.number (dayBeforeTheEnd.number + 1) + 6 ∧
        ∃ (rule : Weekly) (day : Int), rule.weekdays.toList = [day] ∧
          advanceRule (some (.weekly rule)) (.day dayBeforeTheEnd) (.day dayBeforeTheEnd) =
            .error (.noMatch ((Rule.weekly rule).failure dayBeforeTheEnd))) ∧
      (firstFriday.number + 729 ≤ endOfWindow.number ∧
        advanceRule (some (.weekly fridays)) (.day firstFriday) (.day endOfWindow) =
          .error (.noMatch (.weekdays fridays firstFriday))) := by
  refine ⟨?reached, ?sharp, ?calendar, ?ended⟩
  case reached =>
    have weekLeft :
        max firstFriday.number (weekBeforeTheEndOfWindow.number + 1) + 6 ≤
          min (firstFriday.number + 729) Date.lastNumber := by
      decide
    obtain ⟨reached, _⟩ :=
      advanceRule_weekly_reach (.day firstFriday) (.day weekBeforeTheEndOfWindow)
    obtain ⟨_, advances⟩ := reached weekLeft
    exact ⟨weekLeft, advances fridays⟩
  case sharp =>
    have short : firstFriday.number + 723 ≤ sixDaysBeforeTheEndOfWindow.number := by decide
    obtain ⟨_, sharp, _⟩ :=
      advanceRule_weekly_reach (.day firstFriday) (.day sixDaysBeforeTheEndOfWindow)
    exact ⟨short, sharp (Or.inl short)⟩
  case calendar =>
    have short :
        Date.lastNumber < max dayBeforeTheEnd.number (dayBeforeTheEnd.number + 1) + 6 := by
      decide
    obtain ⟨_, sharp, _⟩ :=
      advanceRule_weekly_reach (.day dayBeforeTheEnd) (.day dayBeforeTheEnd)
    exact ⟨short, sharp (Or.inr short)⟩
  case ended =>
    have ended : firstFriday.number + 729 ≤ endOfWindow.number := by decide
    obtain ⟨_, _, failed⟩ :=
      advanceRule_weekly_reach (.day firstFriday) (.day endOfWindow)
    exact ⟨ended, failed ended fridays⟩

end Recurrence
