import Mathlib.Data.List.Forall2
import Mathlib.Data.Set.List
import Recurrence.Proofs.CaseFile.Documents
import Recurrence.Proofs.Json.RoundTrip
import Recurrence.Proofs.Rule.GrammarLaws

namespace Recurrence

/-!
# Loading all cases or none

The records of a list and of an object are taken in the same way, except that those of an object
have their keys for ids.  All records are looked at twice: first each of them must be an object,
then each must have the fields of a case.  So a record that is no object is reported even where
one before it lacks fields.
-/

/-- Either all items have a property or there is a first one that has not. -/
theorem forall_or_exists_first
    (property : α → Prop)
    (items : List α) :
    (∀ item ∈ items, property item) ∨
      ∃ before item after, items = before ++ item :: after ∧
        (∀ earlier ∈ before, property earlier) ∧ ¬ property item := by
  induction items with
  | nil => exact Or.inl nofun
  | cons item items inductionHypothesis =>
      by_cases holds : property item
      · rcases inductionHypothesis with all | ⟨before, first, after, shape, earlier, fails⟩
        · exact Or.inl (List.forall_mem_cons.mpr ⟨holds, all⟩)
        · refine Or.inr ⟨item :: before, first, after, ?_,
            List.forall_mem_cons.mpr ⟨holds, earlier⟩, fails⟩
          rw [shape, List.cons_append]
      · exact Or.inr ⟨[], item, items, rfl, nofun, holds⟩

namespace CaseFile

/-- The fields of a record, and its key if it stands in an object. -/
structure Record where
  key : Option Wording
  fields : Fields Value

/-- A record as it stands in its document. -/
def Record.entry (record : Record) : Option Wording × Value :=
  (record.key, .object record.fields)

/-- What stands in the place of records in a document, each with its key if it has one. -/
def entries? : Value → Option (List (Option Wording × Value))
  | .list items => some (items.map fun item => (none, item))
  | .object fields => some (fields.map fun (key, value) => (some key, value))
  | _ => none

/-- A record is named by its key, or else by its position. -/
def nameOf (position : Nat) : Option Wording → RecordName
  | some key => .key key
  | none => .position position

/-- The id of a record is the text of its own, or else its key, or else its position. -/
def Record.id (position : Nat) (record : Record) : Wording :=
  match record.fields.get? "case_id", record.key with
  | some value, _ => value.label
  | none, some key => key
  | none, none => .whole (toString position)

/-- What is wrong with a field that must be there and hold a text. -/
def neededFaults (name : String) : Option Value → List FieldError
  | some (.text _) => []
  | some _ => [⟨[name], .notText⟩]
  | none => [⟨[name], .missing⟩]

/-- What is wrong with a field that may be null or left out, and must hold a text otherwise. -/
def optionalFaults (name : String) : Option Value → List FieldError
  | some (.text _) => []
  | some .null => []
  | some _ => [⟨[name], .notText⟩]
  | none => []

/-- What is wrong with the fields of a record, an id not being needed. -/
def Record.faults (record : Record) : List FieldError :=
  neededFaults "date" (record.fields.get? "date") ++
    neededFaults "repeat" (record.fields.get? "repeat") ++
    optionalFaults "now" (record.fields.get? "now")

/-- What a field gives that may be left out: its text, or nothing if it is null or not there. -/
inductive GivesOptional : Option Value → Option Wording → Prop where
  | absent : GivesOptional none none
  | null : GivesOptional (some .null) none
  | text (content : Wording) : GivesOptional (some (.text content)) (some content)

/-- A record at a position describes a case. -/
structure Record.Gives (position : Nat) (record : Record) (request : Case) : Prop where
  id : request.id = record.id position
  date : record.fields.get? "date" = some (.text request.date)
  rule : record.fields.get? "repeat" = some (.text request.rule)
  now : GivesOptional (record.fields.get? "now") request.now

/-- What comes of loading the cases of a document. -/
inductive Loading (path : String) (document : Value) : Except LoadError (List Case) → Prop where
  | notCases
      (noEntries : entries? document = none) :
      Loading path document (.error (.notCases path))
  | notAnObject {before : List Record} {key : Option Wording} {value : Value}
      {after : List (Option Wording × Value)}
      (shape : entries? document = some (before.map Record.entry ++ (key, value) :: after))
      (notObject : ∀ fields, value ≠ .object fields) :
      Loading path document (.error (.notAnObject (nameOf before.length key) path))
  | invalidFields {before after : List Record} {record : Record}
      (shape : entries? document = some ((before ++ record :: after).map Record.entry))
      (valid : ∀ earlier ∈ before, earlier.faults = [])
      (invalid : record.faults ≠ []) :
      Loading path document (.error (.invalidFields record.faults))
  | cases {records : List Record} {cases : List Case}
      (shape : entries? document = some (records.map Record.entry))
      (given : List.Forall₂ (fun (record, position) request => record.Gives position request)
        records.zipIdx cases) :
      Loading path document (.ok cases)

section Fields

variable {fields : Fields Value} {name : String}

theorem textField_eq_ok_iff
    {content : Wording} :
    textField fields name = .ok content ↔ fields.get? name = some (.text content) := by
  rw [textField]
  split
  · rename_i found
    simp [found]
  · rename_i value notText found
    rw [found, Option.some.injEq]
    exact iff_of_false nofun (notText content)
  · rename_i absent
    simp [absent]

theorem errors_textField
    (fields : Fields Value)
    (name : String) :
    (textField fields name).errors = neededFaults name (fields.get? name) := by
  rw [textField]
  cases fields.get? name with
  | none => rfl
  | some value => cases value <;> rfl

theorem optionalTextField_eq_ok_iff
    {content : Option Wording} :
    optionalTextField fields name = .ok content ↔ GivesOptional (fields.get? name) content := by
  rw [optionalTextField]
  split
  · rename_i text found
    rw [found, Except.ok.injEq]
    constructor
    · rintro rfl
      exact .text text
    · rintro ⟨⟩
      rfl
  · rename_i found
    rw [found, Except.ok.injEq]
    constructor
    · rintro rfl
      exact .null
    · rintro ⟨⟩
      rfl
  · rename_i value notText notNull found
    rw [found]
    refine iff_of_false nofun fun gives => ?_
    cases gives with
    | null => exact notNull rfl
    | text text => exact notText text rfl
  · rename_i absent
    rw [absent, Except.ok.injEq]
    constructor
    · rintro rfl
      exact .absent
    · rintro ⟨⟩
      rfl

theorem errors_optionalTextField
    (fields : Fields Value)
    (name : String) :
    (optionalTextField fields name).errors = optionalFaults name (fields.get? name) := by
  rw [optionalTextField]
  cases fields.get? name with
  | none => rfl
  | some value => cases value <;> rfl

/-- A needed field without faults holds a text. -/
theorem exists_text_of_neededFaults
    {value : Option Value}
    (valid : neededFaults name value = []) :
    ∃ content, value = some (.text content) := by
  cases value with
  | none => cases valid
  | some value =>
      cases value with
      | text content => exact ⟨content, rfl⟩
      | _ => cases valid

/-- An optional field without faults gives a text or nothing. -/
theorem exists_givesOptional_of_optionalFaults
    {value : Option Value}
    (valid : optionalFaults name value = []) :
    ∃ content, GivesOptional value content := by
  cases value with
  | none => exact ⟨none, .absent⟩
  | some value =>
      cases value with
      | text content => exact ⟨some content, .text content⟩
      | null => exact ⟨none, .null⟩
      | _ => cases valid

theorem textField_congr
    {others : Fields Value}
    (same : fields.get? name = others.get? name) :
    textField fields name = textField others name := by
  rw [textField, same, ← textField]

theorem optionalTextField_congr
    {others : Fields Value}
    (same : fields.get? name = others.get? name) :
    optionalTextField fields name = optionalTextField others name := by
  rw [optionalTextField, same, ← optionalTextField]

end Fields

section Records

variable {position : Nat} {record : Record} {request : Case}

/-- The fields of a record, with its key for an id if it has none. -/
def Record.keyed (record : Record) : Fields Value :=
  match record.key with
  | some key => Fields.ofPairs (("case_id", .text key) :: record.fields)
  | none => record.fields

/-- A key is the value of the id unless the record has an id. -/
theorem Record.get?_keyed
    (distinct : record.fields.keys.Nodup)
    (name : Wording) :
    record.keyed.get? name =
      (record.fields.get? name).or
        (if name = "case_id" then record.key.map Value.text else none) := by
  obtain ⟨key, fields⟩ := record
  cases key with
  | none => simp [keyed]
  | some key =>
      have last : fields.reverse.lookup name = fields.get? name := by
        rw [← Fields.get?_ofPairs, Fields.ofPairs_of_nodup distinct]
      rw [keyed, Fields.get?_ofPairs, List.reverse_cons, List.lookup_append, last]
      congr 1
      by_cases isId : name = "case_id"
      · simp [isId]
      · have differs : (name == "case_id") = false := by simpa using isId
        simp [List.lookup_cons, differs, isId]

theorem get?_withId
    (position : Nat)
    (fields : Fields Value) :
    (withId position fields).get? "case_id" =
      some ((fields.get? "case_id").getD (.text (toString position))) := by
  rw [withId, Fields.has_eq_isSome]
  cases found : fields.get? "case_id" with
  | none =>
      rw [Option.isSome_none, if_neg Bool.false_ne_true, Fields.get?_put_self]
      rfl
  | some value =>
      rw [Option.isSome_some, if_pos rfl, found]
      rfl

theorem get?_withId_of_ne
    {name : Wording}
    (differs : name ≠ "case_id")
    (position : Nat)
    (fields : Fields Value) :
    (withId position fields).get? name = fields.get? name := by
  rw [withId]
  split
  · rfl
  · exact Fields.get?_put_of_ne differs

theorem Record.labelField_keyed
    (position : Nat)
    (distinct : record.fields.keys.Nodup) :
    labelField (withId position record.keyed) "case_id" = .ok (record.id position) := by
  rw [labelField, get?_withId, record.get?_keyed distinct, if_pos rfl, id]
  cases record.fields.get? "case_id" with
  | some value => rfl
  | none =>
      cases record.key with
      | some key => rfl
      | none => rfl

/-- The other fields of a record stay as they are. -/
theorem Record.get?_withId_keyed
    {name : Wording}
    (position : Nat)
    (distinct : record.fields.keys.Nodup)
    (differs : name ≠ "case_id") :
    (withId position record.keyed).get? name = record.fields.get? name := by
  rw [get?_withId_of_ne differs, record.get?_keyed distinct, if_neg differs, Option.or_none]

/-- The id of a record is always good, so that it is checked by its own fields. -/
theorem Record.ofFields_keyed
    (position : Nat)
    (distinct : record.fields.keys.Nodup) :
    Case.ofFields (withId position record.keyed) =
      match textField record.fields "date", textField record.fields "repeat",
        optionalTextField record.fields "now" with
      | .ok date, .ok rule, .ok now => .ok ⟨record.id position, date, rule, now⟩
      | _, _, _ => .error record.faults := by
  have date :
      textField (withId position record.keyed) "date" = textField record.fields "date" :=
    textField_congr (record.get?_withId_keyed position distinct (by decide))
  have rule :
      textField (withId position record.keyed) "repeat" = textField record.fields "repeat" :=
    textField_congr (record.get?_withId_keyed position distinct (by decide))
  have now :
      optionalTextField (withId position record.keyed) "now" =
        optionalTextField record.fields "now" :=
    optionalTextField_congr (record.get?_withId_keyed position distinct (by decide))
  rw [Case.ofFields, record.labelField_keyed position distinct, date, rule, now, faults,
    ← errors_textField, ← errors_textField, ← errors_optionalTextField]
  cases textField record.fields "date" <;> cases textField record.fields "repeat" <;>
    cases optionalTextField record.fields "now" <;> rfl

theorem Record.Gives.ofFields
    (gives : record.Gives position request)
    (distinct : record.fields.keys.Nodup) :
    Case.ofFields (withId position record.keyed) = .ok request := by
  rw [record.ofFields_keyed position distinct, textField_eq_ok_iff.mpr gives.date,
    textField_eq_ok_iff.mpr gives.rule, optionalTextField_eq_ok_iff.mpr gives.now, ← gives.id]

theorem Record.ofFields_of_faults
    (distinct : record.fields.keys.Nodup)
    (invalid : record.faults ≠ []) :
    Case.ofFields (withId position record.keyed) = .error record.faults := by
  rw [record.ofFields_keyed position distinct]
  split
  · rename_i date rule now
    rw [faults, ← errors_textField, ← errors_textField, ← errors_optionalTextField, date, rule,
      now] at invalid
    exact (invalid rfl).elim
  · rfl

/-- A record without faults describes a case. -/
theorem Record.exists_gives
    (position : Nat)
    (valid : record.faults = []) :
    ∃ request, record.Gives position request := by
  rw [faults, List.append_eq_nil_iff, List.append_eq_nil_iff] at valid
  obtain ⟨⟨dateValid, ruleValid⟩, nowValid⟩ := valid
  obtain ⟨date, dateGiven⟩ := exists_text_of_neededFaults dateValid
  obtain ⟨rule, ruleGiven⟩ := exists_text_of_neededFaults ruleValid
  obtain ⟨now, nowGiven⟩ := exists_givesOptional_of_optionalFaults nowValid
  exact ⟨⟨record.id position, date, rule, now⟩, rfl, dateGiven, ruleGiven, nowGiven⟩

end Records

section Traversals

variable {path : String} {document : Value} {position : Nat}

/-- The records of what stands in a document, each with its key for an id if it has none. -/
def keyedRecords
    (path : String) :
    Nat → List (Option Wording × Value) → Except LoadError (List (Fields Value))
  | _, [] => .ok []
  | position, (key, .object fields) :: others => do
      let records ← keyedRecords path (position + 1) others
      return Record.keyed ⟨key, fields⟩ :: records
  | position, (key, _) :: _ => .error (.notAnObject (nameOf position key) path)

theorem listRecords_eq
    (items : List Value) :
    listRecords path position items =
      keyedRecords path position (items.map fun item => (none, item)) := by
  induction items generalizing position with
  | nil => rfl
  | cons item items inductionHypothesis =>
      cases item with
      | object fields =>
          rw [listRecords, inductionHypothesis]
          rfl
      | _ => rfl

theorem objectRecords_eq
    (position : Nat)
    (fields : Fields Value) :
    objectRecords path fields =
      keyedRecords path position (fields.map fun (key, value) => (some key, value)) := by
  induction fields generalizing position with
  | nil => rfl
  | cons field fields inductionHypothesis =>
      obtain ⟨key, value⟩ := field
      cases value with
      | object inner =>
          rw [objectRecords, inductionHypothesis (position + 1)]
          rfl
      | _ => rfl

/-- Lists and objects have their records taken in the same way. -/
theorem records_eq
    (path : String)
    (document : Value) :
    records path document =
      match entries? document with
      | some entries => keyedRecords path 0 entries
      | none => .error (.notCases path) := by
  cases document with
  | list items => exact listRecords_eq items
  | object fields => exact objectRecords_eq 0 fields
  | _ => rfl

/-- Where all entries are objects, all are records. -/
theorem keyedRecords_entries
    (path : String)
    (position : Nat)
    (found : List Record) :
    keyedRecords path position (found.map Record.entry) = .ok (found.map Record.keyed) := by
  induction found generalizing position with
  | nil => rfl
  | cons record found inductionHypothesis =>
      rw [List.map_cons, Record.entry, keyedRecords, inductionHypothesis]
      rfl

/-- The first entry that is no object is the one reported, by its key or its position. -/
theorem keyedRecords_of_notObject
    {key : Option Wording}
    {value : Value}
    (notObject : ∀ fields, value ≠ .object fields)
    (path : String)
    (position : Nat)
    (before : List Record)
    (after : List (Option Wording × Value)) :
    keyedRecords path position (before.map Record.entry ++ (key, value) :: after) =
      .error (.notAnObject (nameOf (position + before.length) key) path) := by
  induction before generalizing position with
  | nil =>
      cases value with
      | object fields => exact (notObject fields rfl).elim
      | _ => rfl
  | cons record before inductionHypothesis =>
      rw [List.map_cons, List.cons_append, Record.entry, keyedRecords, inductionHypothesis,
        List.length_cons, Nat.add_right_comm, Nat.add_assoc]
      rfl

/-- Where all records give cases, these are loaded. -/
theorem casesOfRecords_of_gives
    {found : List Record}
    {cases : List Case}
    (distinct : ∀ record ∈ found, record.fields.keys.Nodup)
    (given : List.Forall₂ (fun (record, position) request => record.Gives position request)
      (found.zipIdx position) cases) :
    casesOfRecords position (found.map Record.keyed) = .ok cases := by
  induction found generalizing position cases with
  | nil =>
      cases given
      rfl
  | cons record found inductionHypothesis =>
      obtain ⟨recordDistinct, othersDistinct⟩ := List.forall_mem_cons.mp distinct
      cases given with
      | cons gives othersGive =>
          rw [List.map_cons, casesOfRecords, gives.ofFields recordDistinct,
            inductionHypothesis othersDistinct othersGive]
          rfl

/-- The first record with faults is the one whose faults are reported. -/
theorem casesOfRecords_of_faults
    {before after : List Record}
    {record : Record}
    (distinct : ∀ other ∈ before ++ record :: after, other.fields.keys.Nodup)
    (valid : ∀ earlier ∈ before, earlier.faults = [])
    (invalid : record.faults ≠ []) :
    casesOfRecords position ((before ++ record :: after).map Record.keyed) =
      .error (.invalidFields record.faults) := by
  induction before generalizing position with
  | nil =>
      rw [List.nil_append, List.map_cons, casesOfRecords,
        record.ofFields_of_faults (distinct record List.mem_cons_self) invalid]
      rfl
  | cons first before inductionHypothesis =>
      rw [List.cons_append] at distinct
      obtain ⟨firstDistinct, othersDistinct⟩ := List.forall_mem_cons.mp distinct
      obtain ⟨firstValid, othersValid⟩ := List.forall_mem_cons.mp valid
      obtain ⟨request, gives⟩ := first.exists_gives position firstValid
      rw [List.cons_append, List.map_cons, casesOfRecords, gives.ofFields firstDistinct,
        inductionHypothesis othersDistinct othersValid]
      rfl

end Traversals

section Documents

variable {path : String} {document : Value}

theorem distinctKeys_of_entries
    {entries : List (Option Wording × Value)}
    (distinct : document.DistinctKeys)
    (shape : entries? document = some entries) :
    ∀ entry ∈ entries, entry.2.DistinctKeys := by
  cases distinct with
  | list each =>
      cases shape
      exact List.forall_mem_map.mpr each
  | object _ each =>
      cases shape
      exact List.forall_mem_map.mpr each
  | _ => cases shape

theorem nodup_keys_of_entries
    {found : List Record}
    (distinct : document.DistinctKeys)
    (shape : entries? document = some (found.map Record.entry)) :
    ∀ record ∈ found, record.fields.keys.Nodup := by
  intro record member
  have ofEntry :=
    distinctKeys_of_entries distinct shape record.entry (List.mem_map_of_mem member)
  cases ofEntry with
  | object keysDistinct _ => exact keysDistinct

/-- A document of records has the cases that the records describe. -/
theorem casesOf_of_records
    {found : List Record}
    (shape : entries? document = some (found.map Record.entry)) :
    casesOf path document = casesOfRecords 0 (found.map Record.keyed) := by
  rw [casesOf, records_eq, shape]
  dsimp only
  rw [keyedRecords_entries]
  rfl

/-- What comes of loading a document is what its cases are. -/
theorem Loading.casesOf_eq
    {outcome : Except LoadError (List Case)}
    (distinct : document.DistinctKeys)
    (loading : Loading path document outcome) :
    casesOf path document = outcome := by
  cases loading with
  | notCases noEntries =>
      rw [casesOf, records_eq, noEntries]
      rfl
  | notAnObject shape notObject =>
      rw [casesOf, records_eq, shape]
      dsimp only
      rw [keyedRecords_of_notObject notObject, Nat.zero_add]
      rfl
  | invalidFields shape valid invalid =>
      rw [casesOf_of_records shape]
      exact casesOfRecords_of_faults (nodup_keys_of_entries distinct shape) valid invalid
  | cases shape given =>
      rw [casesOf_of_records shape]
      exact casesOfRecords_of_gives (nodup_keys_of_entries distinct shape) given

/-- Entries that are all objects are records. -/
theorem exists_records
    {entries : List (Option Wording × Value)}
    (objects : ∀ entry ∈ entries, ∃ fields, entry.2 = .object fields) :
    ∃ found : List Record, found.map Record.entry = entries := by
  have eachRecord : ∀ entry ∈ entries, entry ∈ Set.range Record.entry := by
    rintro ⟨key, value⟩ member
    obtain ⟨fields, rfl⟩ := objects _ member
    exact ⟨⟨key, fields⟩, rfl⟩
  rw [← Set.mem_range, Set.range_list_map]
  exact eachRecord

/-- Something comes of loading any document. -/
theorem exists_loading
    (path : String)
    (document : Value) :
    ∃ outcome, Loading path document outcome := by
  cases shape : entries? document with
  | none => exact ⟨_, .notCases shape⟩
  | some entries =>
      rcases forall_or_exists_first (fun entry => ∃ fields, entry.2 = .object fields) entries with
        objects | ⟨before, ⟨key, value⟩, after, rfl, objects, notObject⟩
      · obtain ⟨found, rfl⟩ := exists_records objects
        rcases forall_or_exists_first (fun record : Record => record.faults = []) found with
          valid | ⟨before, record, after, rfl, valid, invalid⟩
        · have each :
              ∀ item ∈ found.zipIdx, ∃ request, item.1.Gives item.2 request := by
            rintro ⟨record, position⟩ member
            exact record.exists_gives position (valid record (List.fst_mem_of_mem_zipIdx member))
          obtain ⟨cases, given⟩ := exists_forall₂ each
          exact ⟨_, .cases shape given⟩
        · exact ⟨_, .invalidFields shape valid invalid⟩
      · obtain ⟨found, rfl⟩ := exists_records objects
        exact ⟨_, .notAnObject shape fun fields isObject => notObject ⟨fields, isObject⟩⟩

end Documents

end CaseFile

end Recurrence
