import Recurrence.Proofs.CaseFile.DefaultIds
import Recurrence.Proofs.CaseFile.Documents
import Recurrence.Proofs.Report.Completion
import Recurrence.Proofs.Value.Fields

namespace Recurrence

/-!
# Which failures are reported

The failure report of a batch has one entry for every id of a failed case.  So it has
an entry for every failed case exactly if the failed cases have distinct ids; of
failed cases with the same id only the last one is told.  Cases that get their ids
from their positions or from their keys have distinct ids.
-/

/-- The failed ones among outcomes, in order. -/
def Outcome.failed (outcomes : List Outcome) : List Outcome :=
  outcomes.filter fun outcome => !outcome.isOk

/-- The ids of the failed cases, in order. -/
def Outcome.failedIds (outcomes : List Outcome) : List Wording :=
  (failed outcomes).map fun outcome => outcome.input.id

/-- The fields of an entry tell a failed case and what went wrong with it. -/
structure Tells (fields : Fields Value) (outcome : Outcome) : Prop where
  date : fields.get? "date" = some (.text outcome.input.date)
  rule : fields.get? "repeat" = some (.text outcome.input.rule)
  now : fields.get? "now" = outcome.input.now.map fun now => .text now
  error :
    ∃ kind message, outcome.errorKind = some kind ∧ outcome.error = some message ∧
      fields.get? "error" = some (.text (kind ++ (": " : Wording) ++ message))

namespace Report

section Entries

variable {outcome : Outcome} {outcomes : List Outcome}

theorem tells_failureFields
    (hasKind : outcome.errorKind.isSome = outcome.error.isSome)
    (failed : outcome.isOk = false) :
    Tells (failureFields outcome) outcome := by
  obtain ⟨⟨id, date, rule, now⟩, nextDate, error, errorKind⟩ := outcome
  cases error with
  | none => cases failed
  | some message =>
      cases errorKind with
      | none => cases hasKind
      | some kind =>
          cases now with
          | none => exact ⟨rfl, rfl, rfl, kind, message, rfl, rfl, rfl⟩
          | some now => exact ⟨rfl, rfl, rfl, kind, message, rfl, rfl, rfl⟩

/-- The entries of failed outcomes, by the ids of their cases. -/
def entries (outcomes : List Outcome) : List (Wording × Value) :=
  (Outcome.failed outcomes).map fun outcome =>
    (outcome.input.id, .object (failureFields outcome))

theorem failures_eq_ofPairs
    (outcomes : List Outcome) :
    failures outcomes = Fields.ofPairs (entries outcomes) :=
  rfl

theorem keys_entries
    (outcomes : List Outcome) :
    (entries outcomes).map Prod.fst = Outcome.failedIds outcomes := by
  rw [entries, Outcome.failedIds, List.map_map]
  rfl

theorem length_entries
    (outcomes : List Outcome) :
    (entries outcomes).length = (Outcome.failed outcomes).length :=
  List.length_map _

/-- There are as many entries as there are distinct ids of failed cases. -/
theorem length_failures
    (outcomes : List Outcome) :
    (failures outcomes).length = (Outcome.failedIds outcomes).dedup.length := by
  rw [failures_eq_ofPairs, Fields.length_ofPairs, keys_entries]

/-- Failed cases with distinct ids are told one by one, in order. -/
theorem tells_failures
    (haveKinds : ∀ outcome ∈ outcomes, outcome.errorKind.isSome = outcome.error.isSome)
    (distinct : (Outcome.failedIds outcomes).Nodup) :
    List.Forall₂
      (fun outcome entry =>
        entry.1 = outcome.input.id ∧
          ∃ fields, entry.2 = .object fields ∧ Tells fields outcome)
      (Outcome.failed outcomes) (failures outcomes) := by
  rw [← keys_entries] at distinct
  rw [failures_eq_ofPairs, Fields.ofPairs_of_nodup distinct, entries,
    List.forall₂_map_right_iff, List.forall₂_same]
  intro outcome member
  obtain ⟨inside, failed⟩ := List.mem_filter.mp member
  refine ⟨rfl, failureFields outcome, rfl, ?_⟩
  exact tells_failureFields (haveKinds outcome inside) (by simpa using failed)

/-- The last failed case of an id is told under this id. -/
theorem tells_failures_of_last
    {before after : List Outcome}
    (haveKinds : ∀ outcome ∈ outcomes, outcome.errorKind.isSome = outcome.error.isSome)
    (shape : Outcome.failed outcomes = before ++ outcome :: after)
    (last : ∀ later ∈ after, later.input.id ≠ outcome.input.id) :
    ∃ fields, (failures outcomes).get? outcome.input.id = some (.object fields) ∧
      Tells fields outcome := by
  have member : outcome ∈ Outcome.failed outcomes := by
    rw [shape]
    exact List.mem_append_right before List.mem_cons_self
  obtain ⟨inside, failed⟩ := List.mem_filter.mp member
  refine ⟨failureFields outcome, ?_, ?_⟩
  · rw [failures_eq_ofPairs, entries, shape, List.map_append, List.map_cons]
    apply Fields.get?_ofPairs_of_last
    intro entry laterEntry
    obtain ⟨later, inAfter, rfl⟩ := List.mem_map.mp laterEntry
    exact last later inAfter
  · exact tells_failureFields (haveKinds outcome inside) (by simpa using failed)

end Entries

theorem failed_of_ofOutcomes
    {outcomes : List Outcome}
    {summary : Summary}
    (summarized : Summary.ofOutcomes outcomes = .ok summary) :
    summary.failed = (Outcome.failed outcomes).length := by
  rw [Summary.ofOutcomes, bind_eq_ok_iff] at summarized
  obtain ⟨errors, _, made⟩ := summarized
  cases made
  exact List.length_map _

section Runs

variable {scheduler : Scheduler} {today : Date} {path : String} {text : List Char}
variable {report : Report}

/-- A report is on the loaded cases, their outcomes, the records and the summary of these. -/
theorem ofText_inv
    (made : ofText scheduler today path text = .ok report) :
    ∃ cases, CaseFile.loadText path text = .ok cases ∧
      evaluateAll scheduler today cases = .ok report.outcomes ∧
        Outcome.records report.outcomes = .ok report.recordsText ∧
          Summary.ofOutcomes report.outcomes = .ok report.summary := by
  simp only [ofText, bind_eq_ok_iff, mapError_eq_ok_iff, ofCases_eq_ok_iff] at made
  exact made

/-- Failed cases have distinct ids if all cases have. -/
theorem nodup_failedIds
    {outcomes : List Outcome}
    (distinct : ((outcomes.map Outcome.input).map Case.id).Nodup) :
    (Outcome.failedIds outcomes).Nodup := by
  rw [List.map_map] at distinct
  have someOf : (Outcome.failed outcomes).Sublist outcomes := List.filter_sublist
  exact distinct.sublist (someOf.map _)

/--
The summary counts every failed case, the failure report has an entry for every id of a
failed case.  These are as many exactly if the failed cases have distinct ids, and then
the entries tell the failed cases one by one; otherwise each id tells the last failed
case that has it.  The ids are distinct if all cases have distinct ids, and also if no case
has an id of its own and the file is a list or an object.
-/
theorem failures_complete_iff
    (scheduler : Scheduler)
    (today : Date)
    (path : String)
    (text : List Char)
    (report : Report)
    (made : Report.ofText scheduler today path text = .ok report) :
    report.summary.failed = (Outcome.failed report.outcomes).length ∧
      (failures report.outcomes).length = (Outcome.failedIds report.outcomes).dedup.length ∧
      ((failures report.outcomes).length = report.summary.failed ↔
        (Outcome.failedIds report.outcomes).Nodup) ∧
      ((Outcome.failedIds report.outcomes).Nodup →
        List.Forall₂
          (fun outcome entry =>
            entry.1 = outcome.input.id ∧
              ∃ fields, entry.2 = .object fields ∧ Tells fields outcome)
          (Outcome.failed report.outcomes) (failures report.outcomes)) ∧
      (∀ before outcome after,
        Outcome.failed report.outcomes = before ++ outcome :: after →
        (∀ later ∈ after, later.input.id ≠ outcome.input.id) →
          ∃ fields,
            (failures report.outcomes).get? outcome.input.id = some (.object fields) ∧
              Tells fields outcome) ∧
      (∀ cases, CaseFile.loadText path text = .ok cases → (cases.map Case.id).Nodup →
        (failures report.outcomes).length = report.summary.failed) ∧
      (∀ format items, CaseFile.format? path = some format →
        CaseFile.readText (CaseFile.normalPath path) format text = .ok (.list items) →
        (∀ record : Fields Value, .object record ∈ items → record.has "case_id" = false) →
          (failures report.outcomes).length = report.summary.failed) ∧
      (∀ format fields, CaseFile.format? path = some format →
        CaseFile.readText (CaseFile.normalPath path) format text = .ok (.object fields) →
        (∀ field ∈ fields, ∀ inner : Fields Value,
          field.2 = .object inner → inner.has "case_id" = false) →
          (failures report.outcomes).length = report.summary.failed) := by
  obtain ⟨cases, loaded, evaluated, _, summarized⟩ := ofText_inv made
  obtain ⟨sameInputs, haveKinds⟩ := outcomes_of_evaluateAll evaluated
  have counted := failed_of_ofOutcomes summarized
  have complete_iff :
      (failures report.outcomes).length = report.summary.failed ↔
        (Outcome.failedIds report.outcomes).Nodup := by
    rw [counted, failures_eq_ofPairs, ← length_entries, Fields.length_ofPairs_eq_iff,
      keys_entries]
  have complete (distinct : (cases.map Case.id).Nodup) :
      (failures report.outcomes).length = report.summary.failed := by
    rw [complete_iff]
    apply nodup_failedIds
    rwa [sameInputs]
  have ofDocument
      {format : FileFormat}
      {document : Value}
      (known : CaseFile.format? path = some format)
      (read : CaseFile.readText (CaseFile.normalPath path) format text = .ok document) :
      CaseFile.casesOf (CaseFile.normalPath path) document = .ok cases := by
    rw [CaseFile.loadText, known] at loaded
    obtain ⟨found, foundRead, casesFound⟩ := bind_eq_ok_iff.mp loaded
    cases read.symm.trans foundRead
    exact casesFound
  refine ⟨counted, length_failures _, complete_iff, tells_failures haveKinds,
    fun _ _ _ => tells_failures_of_last haveKinds, ?_, ?_, ?_⟩
  · intro others othersLoaded distinct
    cases loaded.symm.trans othersLoaded
    exact complete distinct
  · intro format items known read nameless
    exact complete (CaseFile.nodup_ids_of_list nameless (ofDocument known read))
  · intro format fields known read nameless
    cases CaseFile.distinctKeys_of_readText read with
    | object distinct _ =>
        exact complete (CaseFile.nodup_ids_of_object nameless distinct (ofDocument known read))

end Runs

/-- Two cases that fail, neither with an id. -/
def positionedFile : String :=
  "[\x7b\"date\":\"20240101\",\"repeat\":\"d 0\"\x7d," ++
    "\x7b\"date\":\"20240101\",\"repeat\":\"w 0\"\x7d]"

/-- Two failed cases without ids are told in two entries. -/
theorem failures_positioned :
    ∃ report, Report.ofText .default leapDay "c.json" positionedFile.toList = .ok report ∧
      report.summary.failed = 2 ∧ (failures report.outcomes).length = 2 := by
  have reported :
      (Report.ofText .default leapDay "c.json" positionedFile.toList).toOption.map
        (fun report => (report.summary.failed, Outcome.failedIds report.outcomes)) =
          some (2, [.whole "0", .whole "1"]) := by
    decide +kernel
  obtain ⟨report, given, found⟩ := Option.map_eq_some_iff.mp reported
  obtain ⟨failed, ids⟩ := Prod.mk.inj found
  have made := eq_ok_of_toOption given
  obtain ⟨_, _, complete, _⟩ :=
    failures_complete_iff .default leapDay "c.json" positionedFile.toList report made
  have distinct : (Outcome.failedIds report.outcomes).Nodup := by
    rw [ids]
    decide
  exact ⟨report, made, failed, (complete.mpr distinct).trans failed⟩

/-- A failed case with the id 1, and a failed case without an id at position 1. -/
def collidingFile : String :=
  "[\x7b\"case_id\":\"1\",\"date\":\"20240101\",\"repeat\":\"d 0\"," ++
    "\"now\":\"20240101\"\x7d,\x7b\"date\":\"20240101\",\"repeat\":\"w 0\"," ++
    "\"now\":\"20240101\"\x7d]"

/-- Two cases fail, and one entry tells of them. -/
theorem failures_colliding :
    ∃ report, Report.ofText .default leapDay "c.json" collidingFile.toList = .ok report ∧
      report.summary.failed = 2 ∧ (failures report.outcomes).length = 1 := by
  have reported :
      (Report.ofText .default leapDay "c.json" collidingFile.toList).toOption.map
        (fun report => (report.summary.failed, (failures report.outcomes).length)) =
          some (2, 1) := by
    decide +kernel
  obtain ⟨report, given, found⟩ := Option.map_eq_some_iff.mp reported
  exact ⟨report, eq_ok_of_toOption given, Prod.mk.inj found⟩

end Report

end Recurrence
