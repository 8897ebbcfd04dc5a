import Recurrence.Calendar.Date

namespace Recurrence

/-!
# Checked date arithmetic

Stepping from a date by days or years can leave the calendar.  `Date.shiftDays`
and `Date.shiftYears` say why a step fails.  Years are looked at as signed words of 32
bits, and a year that is none fails for its size, before it is compared with the calendar.
-/

/-- Why a step from a date fails. -/
inductive StepError where
  | tooManyDays (days : Int)
  | dateRange
  | yearRange (year : Int)
  | yearSize (year : Int)
  deriving Repr, DecidableEq

/-- The greatest number of days of a step, in either direction. -/
def maxStepDays : Nat := 999999999

/-- Whether a number is a signed word of so many bits. -/
def fitsWord (bits : Nat) (number : Int) : Bool :=
  let bound : Int := Nat.pow 2 (bits - 1)
  decide (-bound ≤ number) && decide (number < bound)

/-- The wording of a failed step. -/
def StepError.message : StepError → String
  | .tooManyDays days =>
      if fitsWord 32 days then
        s!"days={days}; must have magnitude <= {maxStepDays}"
      else
        "int too large to convert to C int"
  | .dateRange => "date value out of range"
  | .yearRange year => s!"year {year} is out of range"
  | .yearSize year =>
      if !fitsWord 64 year then
        "int too large to convert to C long"
      else if 0 < year then
        "signed integer is greater than maximum"
      else
        "signed integer is less than minimum"

namespace Date

/-- The date so many days later, or why there is none. -/
def shiftDays (date : Date) (days : Int) : Except StepError Date :=
  if maxStepDays < days.natAbs then
    .error (.tooManyDays days)
  else
    match date.addDays? days with
    | some shifted => .ok shifted
    | none => .error .dateRange

/-- The date so many years later, or why there is none. -/
def shiftYears (date : Date) (years : Int) : Except StepError Date :=
  if fitsWord 32 (date.year + years) then
    match date.addYears? years with
    | some shifted => .ok shifted
    | none => .error (.yearRange (date.year + years))
  else
    .error (.yearSize (date.year + years))

end Date

end Recurrence
