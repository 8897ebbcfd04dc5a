import Recurrence.Calendar.Date
import Recurrence.Rule.Basic

namespace Recurrence

/-!
# Occurrences of a rule

`Rule.Occurs rule start date` says that a task scheduled for `start` recurs on
`date`, without a word about how such dates are found.  Daily and yearly rules
go on to the end of the calendar; weekly and monthly rules recur within a bounded
window after `start` only, and a weekly rule can recur on `start` itself.
-/

/-- The number of days, from `start` on, on which a weekly rule can recur. -/
def weeklyWindow : Nat := 730

/-- The number of days, from the day after `start` on, on which a monthly rule can recur. -/
def monthlyWindow : Nat := 1000

/-- Whether a date falls on a day of the week of the rule. -/
def Weekly.matchesWeekday (rule : Weekly) (date : Date) : Bool :=
  decide (date.weekday ∈ rule.weekdays)

/-- Whether a date is one of the month days of the rule, whatever its month. -/
def Monthly.matchesDay (rule : Monthly) (date : Date) : Bool :=
  decide ((date.day : Int) ∈ rule.days) ||
    (decide (-1 ∈ rule.days) && date.isLastDayOfMonth) ||
    (decide (-2 ∈ rule.days) && date.isSecondToLastDayOfMonth)

/-- Whether a date is one of the month days of the rule in one of its months. -/
def Monthly.matchesDate (rule : Monthly) (date : Date) : Bool :=
  rule.matchesDay date && rule.allowsMonth date.month

/--
The day of a year that a yearly rule begun on `start` falls on.  A 29 February
falls on 1 March in common years.
-/
def Date.anniversary? (start : Date) (year : Int) : Option Date :=
  if start.isLeapDay && !isLeap year then
    Date.ofYearMonthDay? year 3 1
  else
    Date.ofYearMonthDay? year start.month start.day

/-- A task scheduled for `start` recurs on `date`. -/
def Rule.Occurs (rule : Rule) (start date : Date) : Prop :=
  match rule with
  | .daily rule =>
      ∃ steps : Nat, 1 ≤ steps ∧ date.number = start.number + steps * rule.interval
  | .yearly => start.year < date.year ∧ start.anniversary? date.year = some date
  | .weekly rule =>
      start.number ≤ date.number ∧ date.number < start.number + weeklyWindow ∧
        rule.matchesWeekday date = true
  | .monthly rule =>
      start.number < date.number ∧ date.number ≤ start.number + monthlyWindow ∧
        rule.matchesDate date = true

end Recurrence
