import Recurrence.Json.Writer

namespace Recurrence

/-!
# Cases and their outcomes

A case asks for one next date; its outcome is that date or a failure.  Both are
read from the fields of an object, which may lack fields or hold values of the
wrong sort; then every bad field is reported, in the order of the declaration.
-/

/-- A request for one next date. -/
structure Case where
  id : Wording
  date : Wording
  rule : Wording
  now : Option Wording
  deriving Repr, DecidableEq

/-- What came of a case: a date, or an error with its kind. -/
structure Outcome where
  input : Case
  nextDate : Option Wording
  error : Option Wording
  errorKind : Option Wording
  deriving Repr, DecidableEq

/-- What is wrong with a field. -/
inductive FieldFault where
  | missing
  | notText
  | notObject
  deriving Repr, DecidableEq

/-- The word that reports a fault. -/
def FieldFault.word : FieldFault → String
  | .missing => "missing"
  | .notText => "string_type"
  | .notObject => "model_type"

/-- A bad field, by the way that leads to it. -/
structure FieldError where
  path : List String
  fault : FieldFault
  deriving Repr, DecidableEq

namespace FieldError

/-- The text that reports a bad field. -/
def message (error : FieldError) : String :=
  String.intercalate "." error.path ++ ": " ++ error.fault.word

/-- The text that reports several bad fields. -/
def messages (errors : List FieldError) : String :=
  String.intercalate "; " (errors.map message)

/-- A bad field of an object that is itself the value of a field. -/
def within (name : String) (error : FieldError) : FieldError :=
  ⟨name :: error.path, error.fault⟩

end FieldError

/-- What a field gives: its value, or what is wrong with it. -/
abbrev Checked (α : Type) := Except (List FieldError) α

namespace Checked

/-- The errors of a field, none if it is good. -/
def errors : Checked α → List FieldError
  | .ok _ => []
  | .error faults => faults

end Checked

/-- A field that any value may fill, by the text of the value. -/
def labelField (fields : Fields Value) (name : String) : Checked Wording :=
  match fields.get? name with
  | some value => .ok value.label
  | none => .error [⟨[name], .missing⟩]

/-- A field that a text must fill. -/
def textField (fields : Fields Value) (name : String) : Checked Wording :=
  match fields.get? name with
  | some (.text content) => .ok content
  | some _ => .error [⟨[name], .notText⟩]
  | none => .error [⟨[name], .missing⟩]

/-- A field that a text may fill; null is the same as nothing. -/
def optionalTextField (fields : Fields Value) (name : String) : Checked (Option Wording) :=
  match fields.get? name with
  | some (.text content) => .ok (some content)
  | some .null => .ok none
  | some _ => .error [⟨[name], .notText⟩]
  | none => .ok none

/-- An optional text as a value. -/
def optionalText : Option Wording → Value
  | some content => .text content
  | none => .null

namespace Case

/-- The case that the fields of an object describe.  Other fields are ignored. -/
def ofFields (fields : Fields Value) : Checked Case :=
  let id := labelField fields "case_id"
  let date := textField fields "date"
  let rule := textField fields "repeat"
  let now := optionalTextField fields "now"
  match id, date, rule, now with
  | .ok id, .ok date, .ok rule, .ok now => .ok ⟨id, date, rule, now⟩
  | _, _, _, _ => .error (id.errors ++ date.errors ++ rule.errors ++ now.errors)

/-- A case as an object. -/
def toValue (request : Case) : Value :=
  .object [("case_id", .text request.id), ("date", .text request.date),
    ("repeat", .text request.rule), ("now", optionalText request.now)]

end Case

namespace Outcome

/-- The field that holds the case of an outcome. -/
def caseField (fields : Fields Value) : Checked Case :=
  match fields.get? "case" with
  | some (.object inner) =>
      (Case.ofFields inner).mapError fun errors => errors.map (FieldError.within "case")
  | some _ => .error [⟨["case"], .notObject⟩]
  | none => .error [⟨["case"], .missing⟩]

/-- The outcome that the fields of an object describe.  Other fields are ignored. -/
def ofFields (fields : Fields Value) : Checked Outcome :=
  let input := caseField fields
  let nextDate := optionalTextField fields "next_date"
  let error := optionalTextField fields "error"
  let errorKind := optionalTextField fields "error_kind"
  match input, nextDate, error, errorKind with
  | .ok input, .ok nextDate, .ok error, .ok errorKind =>
      .ok ⟨input, nextDate, error, errorKind⟩
  | _, _, _, _ =>
      .error (input.errors ++ nextDate.errors ++ error.errors ++ errorKind.errors)

/-- An outcome as an object. -/
def toValue (outcome : Outcome) : Value :=
  .object [("case", outcome.input.toValue), ("next_date", optionalText outcome.nextDate),
    ("error", optionalText outcome.error), ("error_kind", optionalText outcome.errorKind)]

/-- An outcome as one line of JSON, which must be encoded. -/
def record (outcome : Outcome) : Except WriteError (List Char) :=
  if outcome.toValue.isWhole then
    .ok (Json.write .compact outcome.toValue)
  else
    .error .brokenText

/-- The records of outcomes, each on a line of its own. -/
def records : List Outcome → Except WriteError (List Char)
  | [] => .ok []
  | outcome :: others => do
      let line ← outcome.record
      let lines ← records others
      return line ++ '\n' :: lines

/-- Whether an outcome is no failure. -/
def isOk (outcome : Outcome) : Bool :=
  outcome.error.isNone

/-- What to show of an outcome: the date, or the kind and the wording of the error. -/
def summaryText (outcome : Outcome) : Option Wording :=
  match outcome.error with
  | none => outcome.nextDate
  | some error => some (outcome.errorKind.getD "None" ++ (": " : Wording) ++ error)

end Outcome

end Recurrence
