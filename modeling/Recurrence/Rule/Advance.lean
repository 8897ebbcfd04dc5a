import Recurrence.Calendar.DateText
import Recurrence.Rule.Occurrence

namespace Recurrence

/-!
# The next occurrence

`Rule.advance` finds the first occurrence of a rule after a reference date.
Daily rules step straight to it, yearly rules look at two years at most, weekly
and monthly rules search their window day by day.
-/

/-- Why a rule has no next occurrence. -/
inductive NoMatch where
  | offCalendar
  | weekdays (rule : Weekly) (start : Date)
  | monthDays (rule : Monthly) (start : Date)
  deriving DecidableEq

namespace NoMatch

/-- The members of a set in square brackets. -/
def bracketed (set : IntegerSet) : String :=
  "[" ++ String.intercalate ", " (set.toList.map fun day => String.ofList (Text.integerText day)) ++
    "]"

/-- The wording of a failed search. -/
def message : NoMatch → String
  | .offCalendar => "next date is out of the supported date range"
  | .weekdays rule start =>
      s!"no date matching weekdays {bracketed rule.weekdays} found within " ++
        s!"{weeklyWindow} days of {String.ofList start.iso}"
  | .monthDays rule start =>
      s!"no date matching '{String.ofList (Rule.monthly rule).toText}' found within " ++
        s!"{monthlyWindow} days of {String.ofList start.iso}"

end NoMatch

/-- A date that the calendar may not have. -/
def orOffCalendar (date : Option Date) : Except NoMatch Date :=
  match date with
  | some date => .ok date
  | none => .error .offCalendar

/-- The number of intervals from `start` to the first multiple after `now`, at least one. -/
def Daily.stepsPast (rule : Daily) (start now : Date) : Int :=
  max 1 ((now.number - start.number) / rule.interval + 1)

/-- The first date after `now` that is a whole number of intervals after `start`. -/
def Daily.advance (rule : Daily) (start now : Date) : Except NoMatch Date :=
  orOffCalendar (start.addDays? (rule.stepsPast start now * rule.interval))

/--
The first anniversary of `start` after `now`.  The year of `now` may still have
it ahead; in the year after that every day is.
-/
def advanceYearly (start now : Date) : Except NoMatch Date :=
  let year := max (start.year + 1) now.year
  match start.anniversary? year with
  | none => .error .offCalendar
  | some candidate =>
      if now < candidate then
        .ok candidate
      else
        orOffCalendar (start.anniversary? (year + 1))

/-- The first date of the window of a weekly rule that matches and is after `now`. -/
def Weekly.advance (rule : Weekly) (start now : Date) : Except NoMatch Date :=
  let wanted (date : Date) : Bool := rule.matchesWeekday date && decide (now < date)
  match (start.daysFrom weeklyWindow).find? wanted with
  | some date => .ok date
  | none =>
      match start.addDays? weeklyWindow with
      | some _ => .error (.weekdays rule start)
      | none => .error .offCalendar

/-- The days after a date, `count` of them unless the calendar ends before. -/
def Date.daysAfter (date : Date) (count : Nat) : List Date :=
  match date.next? with
  | some following => following.daysFrom count
  | none => []

/-- The first date of the window of a monthly rule that matches and is after `now`. -/
def Monthly.advance (rule : Monthly) (start now : Date) : Except NoMatch Date :=
  let wanted (date : Date) : Bool := rule.matchesDate date && decide (now < date)
  match (start.daysAfter monthlyWindow).find? wanted with
  | some date => .ok date
  | none =>
      match start.addDays? monthlyWindow with
      | some _ => .error (.monthDays rule start)
      | none => .error .offCalendar

namespace Rule

/-- The first occurrence after `now` of a rule begun on `start`. -/
def advance (rule : Rule) (start now : Date) : Except NoMatch Date :=
  match rule with
  | .daily rule => rule.advance start now
  | .yearly => advanceYearly start now
  | .weekly rule => rule.advance start now
  | .monthly rule => rule.advance start now

end Rule

end Recurrence
