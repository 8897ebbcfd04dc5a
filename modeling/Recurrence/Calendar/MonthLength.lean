namespace Recurrence

/-!
# Lengths of months and years

The proleptic Gregorian calendar: every fourth year is a leap year, full
centuries are not, except that every fourth century is.  Years may be any
integer here; dates restrict them to 1 to 9999.
-/

/-- Whether a year has a 29 February. -/
def isLeap (year : Int) : Bool :=
  year % 400 == 0 || (year % 100 != 0 && year % 4 == 0)

/-- The number of days of a month, counted from 1 for January. -/
def monthLength (year : Int) : Nat → Nat
  | 2 => if isLeap year then 29 else 28
  | 4 | 6 | 9 | 11 => 30
  | _ => 31

/-- The number of days of a year before a month. -/
def daysBeforeMonth (year : Int) : Nat → Nat
  | 0 => 0
  | 1 => 0
  | month + 2 => daysBeforeMonth year (month + 1) + monthLength year (month + 1)

/-- The number of days from 1 January of year 1 to 1 January of a year. -/
def daysBeforeYear (year : Int) : Int :=
  (year - 1) * 365 + (year - 1) / 4 - (year - 1) / 100 + (year - 1) / 400

/-- Every month has at least 28 days. -/
theorem le_monthLength
    (year : Int)
    (month : Nat) :
    28 ≤ monthLength year month := by
  unfold monthLength
  split
  · split <;> decide
  all_goals decide

/-- No month has more than 31 days. -/
theorem monthLength_le
    (year : Int)
    (month : Nat) :
    monthLength year month ≤ 31 := by
  unfold monthLength
  split
  · split <;> decide
  all_goals decide

/-- A year has 366 days if it is a leap year, and 365 otherwise. -/
theorem daysBeforeYear_succ
    (year : Int) :
    daysBeforeYear (year + 1) =
      daysBeforeYear year + (if isLeap year then 366 else 365) := by
  have leap :
      isLeap year = true ↔ year % 400 = 0 ∨ (year % 100 ≠ 0 ∧ year % 4 = 0) := by
    simp [isLeap]
  unfold daysBeforeYear
  split
  · rename_i isLeapYear
    have := leap.mp isLeapYear
    omega
  · rename_i isCommon
    have := mt leap.mpr isCommon
    omega

/-- The twelve months of a year have all its days. -/
theorem daysBeforeMonth_thirteen
    (year : Int) :
    daysBeforeMonth year 13 = if isLeap year then 366 else 365 := by
  simp only [daysBeforeMonth, monthLength]
  split <;> rfl

end Recurrence
