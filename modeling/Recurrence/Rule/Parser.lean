import Recurrence.Error.Result
import Recurrence.Rule.Basic

namespace Recurrence

/-!
# Reading rule texts

A rule text is cut at every single space into tokens.  The first token is the
letter of the rule, the others are its lists:

* `d <interval>`: every `<interval>` days;
* `y`: every year;
* `w <weekdays>`: on the listed days of the week;
* `m <days> [<months>]`: on the listed days of the listed months.

Tokens after the last list of `y` and `m` are ignored, or refused by a strict
reading.  The items of month day and month lists may have white space around
them.
-/

/-- Why a text cannot be read as a rule. -/
inductive ParseFailure where
  | rule (error : RuleError)
  | oversized (number : Text.Oversized)
  deriving Repr, DecidableEq

/-- What a reading of a rule text gives. -/
abbrev Parsed (α : Type) := Except ParseFailure α

/-- A check of a rule as a step of its reading. -/
def Parsed.check (result : Except RuleError α) : Parsed α :=
  result.mapError ParseFailure.rule

@[simp] theorem Parsed.check_ok
    (value : α) :
    Parsed.check (.ok value) = .ok value :=
  rfl

@[simp] theorem Parsed.check_error
    (error : RuleError) :
    Parsed.check (.error error : Except RuleError α) = .error (.rule error) :=
  rfl

theorem Parsed.check_eq_ok_iff
    {result : Except RuleError α}
    {value : α} :
    Parsed.check result = .ok value ↔ result = .ok value :=
  mapError_eq_ok_iff

/-- Reads one integer; what is no integer is the given error. -/
def readInteger (error : RuleError) (item : List Char) : Parsed Int :=
  match Text.Numeral.ofText item with
  | .malformed => .error (.rule error)
  | .oversized number => .error (.oversized number)
  | .value integer => .ok integer

/-- Reads integers one after the other, up to the first that fails. -/
def readIntegers (error : RuleError) : List (List Char) → Parsed (List Int)
  | [] => .ok []
  | item :: items => do
      let first ← readInteger error item
      let rest ← readIntegers error items
      return first :: rest

/-- The items of a list token. -/
def listItems (token : List Char) : List (List Char) :=
  Text.splitOn ',' token

/-- Reads the parameters of a daily rule: one interval. -/
def readDaily : List (List Char) → Parsed Rule
  | [interval] => do
      let days ← readInteger .dayInterval interval
      let rule ← Parsed.check (Daily.ofInterval days)
      return .daily rule
  | _ => .error (.rule .dayInterval)

/-- Reads the parameters of a yearly rule: none. -/
def readYearly (strict : Bool) (parameters : List (List Char)) : Parsed Rule :=
  if strict && !parameters.isEmpty then
    .error (.rule .yearlyParameters)
  else
    .ok .yearly

/-- Reads the parameters of a weekly rule: one list, without white space. -/
def readWeekly : List (List Char) → Parsed Rule
  | [weekdays] => do
      let days ← readIntegers .weekday (listItems weekdays)
      let rule ← Parsed.check (Weekly.ofDays days)
      return .weekly rule
  | _ => .error (.rule .weekday)

/-- Reads a list of months, if there is one. -/
def readMonths : List (List Char) → Parsed (List Int)
  | [] => .ok []
  | months :: _ => readIntegers .month ((listItems months).map Text.trim)

/-- Reads the parameters of a monthly rule; the days are checked before the months are read. -/
def readMonthly (strict : Bool) : List (List Char) → Parsed Rule
  | [] => .error (.rule .monthDay)
  | dayList :: others =>
      if strict && 1 < others.length then
        .error (.rule .monthlySurplus)
      else do
        let days ← readIntegers .monthDay ((listItems dayList).map Text.trim)
        Parsed.check (checkMonthDays days)
        let months ← readMonths others
        let rule ← Parsed.check (Monthly.ofDaysAndMonths days months)
        return .monthly rule

/-- Reads the tokens of a rule text. -/
def readTokens (strict : Bool) : List (List Char) → Parsed Rule
  | ['d'] :: parameters => readDaily parameters
  | ['y'] :: parameters => readYearly strict parameters
  | ['w'] :: parameters => readWeekly parameters
  | ['m'] :: parameters => readMonthly strict parameters
  | _ => .error (.rule .unsupportedKind)

namespace Rule

/-- Reads a rule text. -/
def parse (strict : Bool) (text : List Char) : Parsed Rule :=
  if text.isEmpty then
    .error (.rule .empty)
  else
    readTokens strict (Text.splitOn ' ' text)

end Rule

end Recurrence
