import Recurrence.Calendar.Date

namespace Recurrence

/-!
# Moments

A reference may carry a time of day.  Only its calendar day matters: two moments
are compared by their dates.
-/

/-- A date, with or without a time of day in seconds after midnight. -/
inductive Moment where
  | day (date : Date)
  | time (date : Date) (seconds : Nat)
  deriving Repr, DecidableEq

namespace Moment

/-- The calendar day of a moment. -/
def date : Moment → Date
  | .day date => date
  | .time date _ => date

/-- Whether the calendar day of a moment comes after that of another one. -/
def isAfter (candidate reference : Moment) : Bool :=
  reference.date < candidate.date

end Moment

end Recurrence
