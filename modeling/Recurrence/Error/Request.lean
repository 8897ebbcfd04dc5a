import Recurrence.Rule.Advance
import Recurrence.Rule.Parser

namespace Recurrence

/-!
# Failures of a request

A `RecurrenceError` is a failure that belongs to the request: its rule, its
dates, or the lack of a next occurrence.  A number that is too long to be read
is a failure of another sort, which no outcome records.
-/

/-- Why a next date cannot be computed. -/
inductive RecurrenceError where
  | rule (error : RuleError)
  | invalidDate
  | noMatch (cause : NoMatch)
  deriving DecidableEq

namespace RecurrenceError

/-- The kind of the failure. -/
def kind : RecurrenceError → ErrorKind
  | .rule error => error.kind
  | .invalidDate => .invalidDate
  | .noMatch _ => .noMatchFound

/-- The wording of the failure. -/
def message : RecurrenceError → String
  | .rule error => error.message
  | .invalidDate => ErrorKind.invalidDate.defaultMessage
  | .noMatch cause => cause.message

end RecurrenceError

/-- Why a request has no answer. -/
inductive RequestError where
  | recurrence (error : RecurrenceError)
  | oversized (number : Text.Oversized)
  deriving DecidableEq

namespace RequestError

/-- The wording of the failure. -/
def message : RequestError → String
  | .recurrence error => error.message
  | .oversized number => number.message

/-- A rule text that cannot be read. -/
def ofParseFailure : ParseFailure → RequestError
  | .rule error => .recurrence (.rule error)
  | .oversized number => .oversized number

/-- A search without result. -/
def ofNoMatch (cause : NoMatch) : RequestError :=
  .recurrence (.noMatch cause)

end RequestError

/-- Why a request for several dates has no answer. -/
inductive ListingError where
  | request (error : RequestError)
  | countNotPositive (count : Int)
  deriving DecidableEq

/-- The wording of the failure. -/
def ListingError.message : ListingError → String
  | .request error => error.message
  | .countNotPositive count => s!"count must be positive, got {count}"

/-- Why a rule that may be missing cannot be advanced. -/
inductive AdvanceError where
  | ruleMissing
  | noMatch (cause : NoMatch)
  deriving DecidableEq

/-- The wording of the failure. -/
def AdvanceError.message : AdvanceError → String
  | .ruleMissing => "Unsupported recurrence rule: None"
  | .noMatch cause => cause.message

end Recurrence
