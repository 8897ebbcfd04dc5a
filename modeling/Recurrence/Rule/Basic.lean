import Recurrence.Error.Kind
import Recurrence.Rule.IntegerSet
import Recurrence.Text.Integer
import Recurrence.Text.Split

namespace Recurrence

/-!
# Recurrence rules

A rule says on which days a task recurs: every so many days, on the same day of
every year, on days of the week, or on days of the month in some months.  The
numbers of a rule lie in fixed ranges, which the types carry.  `Rule.toText`
gives the canonical text of a rule: lists ascend and repeat nothing.
-/

/-- Why something is not a rule. -/
inductive RuleError where
  | empty
  | unsupportedKind
  | yearlyParameters
  | monthlySurplus
  | dayInterval
  | weekday
  | monthDay
  | month
  deriving Repr, DecidableEq

namespace RuleError

/-- The kind of failure that an invalid rule is. -/
def kind : RuleError → ErrorKind
  | .empty => .emptyRule
  | .unsupportedKind => .unsupportedRuleKind
  | .yearlyParameters => .invalidRule
  | .monthlySurplus => .invalidRule
  | .dayInterval => .invalidDayInterval
  | .weekday => .invalidWeekday
  | .monthDay => .invalidMonthDay
  | .month => .invalidMonth

/-- The wording of the failure. -/
def message : RuleError → String
  | .yearlyParameters => "yearly rule takes no parameters"
  | .monthlySurplus => "monthly rule takes at most a day and a month list"
  | error => error.kind.defaultMessage

end RuleError

/-- The days between two occurrences of a daily rule may be 1 to 400. -/
def IsDayInterval (interval : Int) : Prop :=
  1 ≤ interval ∧ interval ≤ 400

instance (interval : Int) : Decidable (IsDayInterval interval) :=
  inferInstanceAs (Decidable (_ ∧ _))

/-- The days of the week are 1 for Monday to 7 for Sunday. -/
def IsWeekday (day : Int) : Prop :=
  1 ≤ day ∧ day ≤ 7

instance (day : Int) : Decidable (IsWeekday day) :=
  inferInstanceAs (Decidable (_ ∧ _))

/-- The days of a month are 1 to 31, -1 for the last day and -2 for the day before it. -/
def IsMonthDay (day : Int) : Prop :=
  day ≠ 0 ∧ -2 ≤ day ∧ day ≤ 31

instance (day : Int) : Decidable (IsMonthDay day) :=
  inferInstanceAs (Decidable (_ ∧ _))

/-- The months are 1 for January to 12 for December. -/
def IsMonth (month : Int) : Prop :=
  1 ≤ month ∧ month ≤ 12

instance (month : Int) : Decidable (IsMonth month) :=
  inferInstanceAs (Decidable (_ ∧ _))

/-- A rule that recurs every `interval` days. -/
structure Daily where
  interval : Int
  interval_range : IsDayInterval interval
  deriving DecidableEq

/-- A rule that recurs on the given days of the week. -/
structure Weekly where
  weekdays : IntegerSet
  weekdays_ne_nil : weekdays.toList ≠ []
  weekdays_range : ∀ day ∈ weekdays.toList, IsWeekday day
  deriving DecidableEq

/-- A rule that recurs on the given days of the given months; no months means all. -/
structure Monthly where
  days : IntegerSet
  months : IntegerSet
  days_ne_nil : days.toList ≠ []
  days_range : ∀ day ∈ days.toList, IsMonthDay day
  months_range : ∀ month ∈ months.toList, IsMonth month
  deriving DecidableEq

/-- A recurrence rule. -/
inductive Rule where
  | daily (rule : Daily)
  | yearly
  | weekly (rule : Weekly)
  | monthly (rule : Monthly)
  deriving DecidableEq

/-- The daily rule of an interval. -/
def Daily.ofInterval (interval : Int) : Except RuleError Daily :=
  if range : IsDayInterval interval then
    .ok ⟨interval, range⟩
  else
    .error .dayInterval

/-- The weekly rule of a list of days of the week. -/
def Weekly.ofDays (days : List Int) : Except RuleError Weekly :=
  let weekdays := IntegerSet.ofList days
  if valid : weekdays.toList ≠ [] ∧ ∀ day ∈ weekdays.toList, IsWeekday day then
    .ok ⟨weekdays, valid.1, valid.2⟩
  else
    .error .weekday

/-- Checks a list of month days: there must be one, and all must be in range. -/
def checkMonthDays (days : List Int) : Except RuleError Unit :=
  if days ≠ [] ∧ ∀ day ∈ days, IsMonthDay day then .ok () else .error .monthDay

/-- The monthly rule of a list of days and a list of months; days are checked first. -/
def Monthly.ofDaysAndMonths (days months : List Int) : Except RuleError Monthly :=
  let daySet := IntegerSet.ofList days
  let monthSet := IntegerSet.ofList months
  if validDays : daySet.toList ≠ [] ∧ ∀ day ∈ daySet.toList, IsMonthDay day then
    if validMonths : ∀ month ∈ monthSet.toList, IsMonth month then
      .ok ⟨daySet, monthSet, validDays.1, validDays.2, validMonths⟩
    else
      .error .month
  else
    .error .monthDay

/-- Whether a monthly rule recurs in a month. -/
def Monthly.allowsMonth (rule : Monthly) (month : Int) : Bool :=
  rule.months.isEmpty || decide (month ∈ rule.months)

/-- The members of a set, separated by commas. -/
def IntegerSet.listText (set : IntegerSet) : List Char :=
  Text.join ',' (set.toList.map Text.integerText)

namespace Rule

/-- The letter that a rule text begins with. -/
def letter : Rule → Char
  | .daily _ => 'd'
  | .yearly => 'y'
  | .weekly _ => 'w'
  | .monthly _ => 'm'

/-- The tokens of the canonical text of a rule. -/
def toTokens (rule : Rule) : List (List Char) :=
  [rule.letter] ::
    match rule with
    | .daily parameters => [Text.integerText parameters.interval]
    | .yearly => []
    | .weekly parameters => [parameters.weekdays.listText]
    | .monthly parameters =>
        if parameters.months.isEmpty then
          [parameters.days.listText]
        else
          [parameters.days.listText, parameters.months.listText]

/-- The canonical text of a rule: its tokens, separated by single spaces. -/
def toText (rule : Rule) : List Char :=
  Text.join ' ' rule.toTokens

end Rule

end Recurrence
