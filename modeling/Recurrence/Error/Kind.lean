namespace Recurrence

/-!
# Kinds of failure

Every failure to compute a next date has a kind with a stable name.  Kinds form
a tree: the faults of a rule text are kinds of `ruleParse`, and all kinds are
kinds of `recurrence`.
-/

/-- A kind of failure, the two families of kinds included. -/
inductive ErrorKind where
  | recurrence
  | ruleParse
  | emptyRule
  | unsupportedRuleKind
  | invalidRule
  | invalidDayInterval
  | invalidWeekday
  | invalidMonthDay
  | invalidMonth
  | invalidDate
  | noMatchFound
  deriving Repr, DecidableEq

namespace ErrorKind

/-- The stable name of a kind. -/
def name : ErrorKind → String
  | .recurrence => "RecurrenceError"
  | .ruleParse => "RuleParseError"
  | .emptyRule => "EmptyRule"
  | .unsupportedRuleKind => "UnsupportedRuleKind"
  | .invalidRule => "InvalidRule"
  | .invalidDayInterval => "InvalidDayInterval"
  | .invalidWeekday => "InvalidWeekday"
  | .invalidMonthDay => "InvalidMonthDay"
  | .invalidMonth => "InvalidMonth"
  | .invalidDate => "InvalidDate"
  | .noMatchFound => "NoMatchFound"

/-- The wording of a failure that says nothing more than its kind. -/
def defaultMessage : ErrorKind → String
  | .recurrence => "recurrence error"
  | .ruleParse => "invalid repeat rule"
  | .emptyRule => "invalid repeat rule"
  | .unsupportedRuleKind => "unsupported repeat rule"
  | .invalidRule => "invalid repeat rule"
  | .invalidDayInterval =>
      "invalid day interval: must be positive integer between 1-400"
  | .invalidWeekday => "invalid day value"
  | .invalidMonthDay => "invalid day value"
  | .invalidMonth => "invalid month value"
  | .invalidDate => "invalid date format"
  | .noMatchFound => "no matching date found"

/-- The families that a kind belongs to, the nearest one first. -/
def families : ErrorKind → List ErrorKind
  | .recurrence => []
  | .ruleParse => [.recurrence]
  | .emptyRule => [.ruleParse, .recurrence]
  | .unsupportedRuleKind => [.ruleParse, .recurrence]
  | .invalidRule => [.ruleParse, .recurrence]
  | .invalidDayInterval => [.ruleParse, .recurrence]
  | .invalidWeekday => [.ruleParse, .recurrence]
  | .invalidMonthDay => [.ruleParse, .recurrence]
  | .invalidMonth => [.ruleParse, .recurrence]
  | .invalidDate => [.recurrence]
  | .noMatchFound => [.recurrence]

/-- The wording of a failure: its own, unless that is missing or empty. -/
def messageOr (kind : ErrorKind) : Option String → String
  | some wording => if wording.isEmpty then kind.defaultMessage else wording
  | none => kind.defaultMessage

end ErrorKind

end Recurrence
