import Recurrence.CaseFile
import Recurrence.Proofs.Json.RoundTrip

namespace Recurrence

/-!
# The objects of cases and outcomes

The object of a case or an outcome holds its parts, with null for what is missing, and the
case or outcome is read from it as it was.  If all its texts are whole, the object can be
written as JSON and read again.
-/

/-- All texts of a case are whole. -/
structure Case.IsWhole (request : Case) : Prop where
  id : request.id.isWhole = true
  date : request.date.isWhole = true
  rule : request.rule.isWhole = true
  now : ∀ text ∈ request.now, text.isWhole = true

/-- All texts of an outcome are whole, those of its case too. -/
structure Outcome.IsWhole (outcome : Outcome) : Prop where
  input : outcome.input.IsWhole
  nextDate : ∀ text ∈ outcome.nextDate, text.isWhole = true
  error : ∀ text ∈ outcome.error, text.isWhole = true
  errorKind : ∀ text ∈ outcome.errorKind, text.isWhole = true

/-- Fields hold the parts of a case, with null for a missing reference. -/
structure HoldsCase (fields : Fields Value) (request : Case) : Prop where
  id : fields.get? "case_id" = some (.text request.id)
  date : fields.get? "date" = some (.text request.date)
  rule : fields.get? "repeat" = some (.text request.rule)
  now : fields.get? "now" = some (request.now.elim .null .text)

/-- Fields hold the parts of an outcome, with null for what is missing. -/
structure HoldsOutcome (fields : Fields Value) (outcome : Outcome) : Prop where
  input : ∃ inner, fields.get? "case" = some (.object inner) ∧ HoldsCase inner outcome.input
  nextDate : fields.get? "next_date" = some (outcome.nextDate.elim .null .text)
  error : fields.get? "error" = some (outcome.error.elim .null .text)
  errorKind : fields.get? "error_kind" = some (outcome.errorKind.elim .null .text)

/-- A document is an object that holds the parts of an outcome and is read as this outcome. -/
def Describes (document : Value) (outcome : Outcome) : Prop :=
  ∃ fields, document = .object fields ∧ HoldsOutcome fields outcome ∧
    Outcome.ofFields fields = .ok outcome

section Fields

variable {fields : Fields Value} {name : String}

theorem labelField_of_get?
    {content : Wording}
    (found : fields.get? name = some (.text content)) :
    labelField fields name = .ok content := by
  simp only [labelField, found, Value.label]

theorem textField_of_get?
    {content : Wording}
    (found : fields.get? name = some (.text content)) :
    textField fields name = .ok content := by
  simp only [textField, found]

/-- An optional text is read from its value. -/
theorem optionalTextField_of_value
    {content : Option Wording}
    (found : fields.get? name = some (content.elim .null .text)) :
    optionalTextField fields name = .ok content := by
  cases content with
  | none => simp only [optionalTextField, found, Option.elim_none]
  | some text => simp only [optionalTextField, found, Option.elim_some]

/-- An optional text is read from a field that is there only if there is a text. -/
theorem optionalTextField_of_get?
    {content : Option Wording}
    (found : fields.get? name = content.map fun text => .text text) :
    optionalTextField fields name = .ok content := by
  cases content with
  | none => simp only [optionalTextField, found, Option.map_none]
  | some text => simp only [optionalTextField, found, Option.map_some]

/-- Fields that give the parts of a case describe it. -/
theorem Case.ofFields_of_parts
    {request : Case}
    (id : fields.get? "case_id" = some (.text request.id))
    (date : fields.get? "date" = some (.text request.date))
    (rule : fields.get? "repeat" = some (.text request.rule))
    (now : optionalTextField fields "now" = .ok request.now) :
    Case.ofFields fields = .ok request := by
  simp only [Case.ofFields, labelField_of_get? id, textField_of_get? date,
    textField_of_get? rule, now]

end Fields

theorem optionalText_eq_elim
    (content : Option Wording) :
    optionalText content = content.elim .null .text := by
  cases content with
  | none => rfl
  | some text => rfl

namespace Case

variable {fields : Fields Value} {request : Case}

/-- A case is read from the fields that hold it. -/
theorem ofFields_of_holds
    (holds : HoldsCase fields request) :
    ofFields fields = .ok request :=
  ofFields_of_parts holds.id holds.date holds.rule (optionalTextField_of_value holds.now)

/-- The object of a case holds the case. -/
theorem holdsCase_toValue
    (request : Case) :
    ∃ fields, request.toValue = .object fields ∧ HoldsCase fields request := by
  refine ⟨_, rfl, rfl, rfl, rfl, ?_⟩
  rw [← optionalText_eq_elim]
  rfl

end Case

namespace Outcome

/-- An outcome is read from the fields that hold it. -/
theorem ofFields_of_holds
    {fields : Fields Value}
    {outcome : Outcome}
    (holds : HoldsOutcome fields outcome) :
    ofFields fields = .ok outcome := by
  obtain ⟨inner, given, held⟩ := holds.input
  have caseRead : caseField fields = .ok outcome.input := by
    simp only [caseField, given, Case.ofFields_of_holds held, Except.mapError]
  simp only [ofFields, caseRead, optionalTextField_of_value holds.nextDate,
    optionalTextField_of_value holds.error, optionalTextField_of_value holds.errorKind]

/-- The object of an outcome holds the outcome. -/
theorem holdsOutcome_toValue
    (outcome : Outcome) :
    ∃ fields, outcome.toValue = .object fields ∧ HoldsOutcome fields outcome := by
  obtain ⟨inner, shape, held⟩ := outcome.input.holdsCase_toValue
  simp only [toValue, shape, optionalText_eq_elim]
  exact ⟨_, rfl, ⟨inner, rfl, held⟩, rfl, rfl, rfl⟩

/-- The object of an outcome describes the outcome. -/
theorem describes_toValue
    (outcome : Outcome) :
    Describes outcome.toValue outcome := by
  obtain ⟨fields, shape, holds⟩ := outcome.holdsOutcome_toValue
  exact ⟨fields, shape, holds, ofFields_of_holds holds⟩

end Outcome

section Texts

theorem isWhole_optionalText_iff
    {content : Option Wording} :
    (optionalText content).isWhole = true ↔ ∀ text ∈ content, text.isWhole = true := by
  cases content with
  | none => simp [optionalText, Value.isWhole]
  | some text => simp [optionalText, Value.isWhole]

/-- The object of a case has whole texts exactly if the case has. -/
theorem Case.isWhole_toValue_iff
    {request : Case} :
    request.toValue.isWhole = true ↔ request.IsWhole := by
  simp only [toValue, Value.isWhole, Value.fieldsWhole, Wording.isWhole, Bool.true_and,
    Bool.and_true, Bool.and_eq_true, isWhole_optionalText_iff]
  constructor
  · rintro ⟨id, date, rule, now⟩
    exact ⟨id, date, rule, now⟩
  · exact fun whole => ⟨whole.id, whole.date, whole.rule, whole.now⟩

/-- The object of an outcome has whole texts exactly if the outcome has. -/
theorem Outcome.isWhole_toValue_iff
    {outcome : Outcome} :
    outcome.toValue.isWhole = true ↔ outcome.IsWhole := by
  simp only [toValue, Value.isWhole, Value.fieldsWhole, Wording.isWhole, Bool.true_and,
    Bool.and_true, Bool.and_eq_true, isWhole_optionalText_iff, Case.isWhole_toValue_iff]
  constructor
  · rintro ⟨input, nextDate, error, errorKind⟩
    exact ⟨input, nextDate, error, errorKind⟩
  · exact fun whole => ⟨whole.input, whole.nextDate, whole.error, whole.errorKind⟩

instance (request : Case) : Decidable request.IsWhole :=
  decidable_of_iff (request.toValue.isWhole = true) Case.isWhole_toValue_iff

instance (outcome : Outcome) : Decidable outcome.IsWhole :=
  decidable_of_iff (outcome.toValue.isWhole = true) Outcome.isWhole_toValue_iff

theorem Wording.exists_eq_whole
    {text : Wording}
    (isWhole : text.isWhole = true) :
    ∃ content : String, text = .whole content := by
  cases text with
  | whole content => exact ⟨content, rfl⟩
  | broken codes isBroken => cases isWhole

theorem writable_text
    {content : Wording}
    (isWhole : content.isWhole = true) :
    Json.Writable (.text content) := by
  obtain ⟨content, rfl⟩ := Wording.exists_eq_whole isWhole
  exact Json.Writable.text content

theorem writable_optionalText
    {content : Option Wording}
    (whole : ∀ text ∈ content, text.isWhole = true) :
    Json.Writable (optionalText content) := by
  cases content with
  | none => exact Json.Writable.null
  | some text => exact writable_text (whole text rfl)

theorem Case.IsWhole.writable_toValue
    {request : Case}
    (whole : request.IsWhole) :
    Json.Writable request.toValue := by
  simp [Case.toValue, Fields.keys, writable_text whole.id, writable_text whole.date,
    writable_text whole.rule, writable_optionalText whole.now]

theorem Outcome.IsWhole.writable_toValue
    {outcome : Outcome}
    (whole : outcome.IsWhole) :
    Json.Writable outcome.toValue := by
  simp [Outcome.toValue, Fields.keys, whole.input.writable_toValue,
    writable_optionalText whole.nextDate, writable_optionalText whole.error,
    writable_optionalText whole.errorKind]

end Texts

end Recurrence
