import Recurrence.Proofs.CaseFile.Objects
import Recurrence.Proofs.Report.Failures

namespace Recurrence

/-!
# Failures run again

The failure report is a case file.  If the failed cases have distinct ids, it holds exactly
these cases, in order: an entry has its id as key, lacks what the case lacks, and its
text of the error is no part of a case.  Evaluated again, they fail as before.
-/

namespace CaseFile

/-- A file whose name ends in `.nt` is read as NestedText, in whatever directory it is. -/
theorem format?_failuresPath
    (directory : String) :
    format? (directory ++ "/failures.nt") = some .nestedText := by
  have path : (directory ++ "/failures.nt").toList =
      directory.toList ++ '/' :: "failures.nt".toList := by
    rw [String.toList_append]
    rfl
  have parts : pathParts (directory ++ "/failures.nt").toList =
      pathParts directory.toList ++ ["failures.nt".toList] := by
    rw [path, pathParts, Text.splitOn_append_separator, List.filter_append]
    rfl
  have name : baseName (directory ++ "/failures.nt").toList = "failures.nt".toList := by
    rw [baseName, parts, List.getLast?_concat, Option.getD_some]
  rw [format?, extension, name]
  decide

end CaseFile

namespace Report

section Entries

variable {outcome : Outcome} {outcomes : List Outcome} {path : String}

/-- The fields of an entry after its key as id. -/
def namedFields (outcome : Outcome) : Fields Value :=
  ("case_id", .text outcome.input.id) :: failureFields outcome

/-- The record of an entry: its fields with its key as id. -/
def entryRecord (outcome : Outcome) : Fields Value :=
  Fields.ofPairs (namedFields outcome)

/-- The record of an entry describes the case that failed, and nothing else. -/
theorem ofFields_entryRecord
    (position : Nat) :
    Case.ofFields (CaseFile.withId position (entryRecord outcome)) = .ok outcome.input := by
  have record : entryRecord outcome = namedFields outcome := by
    apply Fields.ofPairs_of_nodup
    unfold namedFields failureFields
    cases outcome.input.now with
    | none => simp [Fields.add]
    | some now => simp [Fields.add]
  rw [record, CaseFile.withId]
  apply Case.ofFields_of_parts
  · rfl
  · rfl
  · rfl
  · apply optionalTextField_of_get?
    unfold namedFields failureFields
    cases outcome.input.now with
    | none => rfl
    | some now => rfl

theorem objectRecords_entries
    (outcomes : List Outcome) :
    CaseFile.objectRecords path (entries outcomes) =
      .ok ((Outcome.failed outcomes).map entryRecord) := by
  rw [entries]
  induction Outcome.failed outcomes with
  | nil => rfl
  | cons outcome others inductionHypothesis =>
      rw [List.map_cons, CaseFile.objectRecords, inductionHypothesis]
      rfl

theorem casesOfRecords_entryRecord
    (position : Nat)
    (outcomes : List Outcome) :
    CaseFile.casesOfRecords position (outcomes.map entryRecord) =
      .ok (outcomes.map Outcome.input) := by
  induction outcomes generalizing position with
  | nil => rfl
  | cons outcome others inductionHypothesis =>
      rw [List.map_cons, CaseFile.casesOfRecords, ofFields_entryRecord, inductionHypothesis]
      rfl

/-- The failures hold the failed cases, in order. -/
theorem casesOf_failures
    (distinct : (Outcome.failedIds outcomes).Nodup) :
    CaseFile.casesOf path (.object (failures outcomes)) =
      .ok ((Outcome.failed outcomes).map Outcome.input) := by
  rw [← keys_entries] at distinct
  rw [failures_eq_ofPairs, Fields.ofPairs_of_nodup distinct, CaseFile.casesOf, CaseFile.records,
    objectRecords_entries]
  exact casesOfRecords_entryRecord 0 (Outcome.failed outcomes)

theorem loadText_failures
    {text : List Char}
    (distinct : (Outcome.failedIds outcomes).Nodup)
    (format : CaseFile.format? path = some .nestedText)
    (read : NestedText.read? text = some (.object (failures outcomes))) :
    CaseFile.loadText path text = .ok ((Outcome.failed outcomes).map Outcome.input) := by
  rw [CaseFile.loadText, format]
  simp only [CaseFile.loadFormat, CaseFile.readText, CaseFile.readNestedText, read]
  exact casesOf_failures distinct

end Entries

section Evaluation

variable {scheduler : Scheduler} {today : Date} {cases : List Case} {outcomes : List Outcome}

/-- The case of an outcome has this outcome again. -/
theorem evaluate_input
    {outcome : Outcome}
    (evaluated : evaluateAll scheduler today cases = .ok outcomes)
    (member : outcome ∈ outcomes) :
    scheduler.evaluate today outcome.input = .ok outcome := by
  obtain ⟨request, answered⟩ := exists_of_forall₂ (evaluateAll_eq_ok_iff.mp evaluated).flip member
  have answered : scheduler.evaluate today request = .ok outcome := answered
  rwa [(Scheduler.evaluate_eq_ok answered).1]

/-- The failed cases fail again as before. -/
theorem evaluateAll_failed
    (evaluated : evaluateAll scheduler today cases = .ok outcomes) :
    evaluateAll scheduler today ((Outcome.failed outcomes).map Outcome.input) =
      .ok (Outcome.failed outcomes) := by
  rw [evaluateAll_eq_ok_iff, List.forall₂_map_left_iff, List.forall₂_same]
  intro outcome member
  exact evaluate_input evaluated (List.mem_of_mem_filter member)

theorem failed_failed
    (outcomes : List Outcome) :
    Outcome.failed (Outcome.failed outcomes) = Outcome.failed outcomes := by
  rw [Outcome.failed, Outcome.failed, List.filter_filter]
  simp

/--
The failures of a batch, saved in some directory, are loaded as the failed cases if these have
distinct ids and the saved text is read as the document that was written.  Evaluated by
the same scheduler on the same day, each of them has its old outcome, with the same
error and the same kind, and the failures that are then saved are the same text.
-/
theorem failures_rerun
    (scheduler : Scheduler)
    (today : Date)
    (cases : List Case)
    (report : Report)
    (directory : String)
    (text : List Char)
    (made : ofCases scheduler today cases = .ok report)
    (distinct : (Outcome.failedIds report.outcomes).Nodup)
    (saved : report.failuresText = some text)
    (read : NestedText.read? text = some (.object (failures report.outcomes))) :
    ((Outcome.failed report.outcomes).map Outcome.input).Sublist cases ∧
      CaseFile.loadText (directory ++ "/failures.nt") text =
        .ok ((Outcome.failed report.outcomes).map Outcome.input) ∧
      evaluateAll scheduler today ((Outcome.failed report.outcomes).map Outcome.input) =
        .ok (Outcome.failed report.outcomes) ∧
      ∃ again, ofText scheduler today (directory ++ "/failures.nt") text = .ok again ∧
        again.outcomes = Outcome.failed report.outcomes ∧ again.failuresText = some text := by
  obtain ⟨evaluated, whole⟩ := ofCases_outcomes_iff.mp ⟨report, made, rfl⟩
  have loaded := loadText_failures distinct (CaseFile.format?_failuresPath directory) read
  have evaluatedAgain := evaluateAll_failed evaluated
  have failedWhole : ∀ outcome ∈ Outcome.failed report.outcomes, outcome.IsWhole :=
    fun outcome member => whole outcome (List.mem_of_mem_filter member)
  obtain ⟨again, madeAgain, sameOutcomes⟩ :=
    ofCases_outcomes_iff.mpr ⟨evaluatedAgain, failedWhole⟩
  refine ⟨?_, loaded, evaluatedAgain, again, ?_, sameOutcomes, ?_⟩
  · rw [← (outcomes_of_evaluateAll evaluated).1]
    exact List.filter_sublist.map Outcome.input
  · rw [ofText_of_loaded loaded, madeAgain]
  · have sameFailures : failures again.outcomes = failures report.outcomes := by
      rw [failures_eq_ofPairs, failures_eq_ofPairs, entries, entries, sameOutcomes,
        failed_failed]
    rw [← saved, failuresText, failuresText, sameFailures]

/-- Three cases: one fails without a reference, one does not fail, one fails with an empty one. -/
def rerunCases : List Case :=
  [⟨"a", "20240101", "d 0", none⟩, ⟨"b", "20240101", "w 1", some "20240101"⟩,
    ⟨"c: 1", "2024", "", some ""⟩]

/-- What comes of the three cases. -/
def rerunOutcomes : List Outcome :=
  [⟨⟨"a", "20240101", "d 0", none⟩, none,
      some "invalid day interval: must be positive integer between 1-400",
      some "InvalidDayInterval"⟩,
    ⟨⟨"b", "20240101", "w 1", some "20240101"⟩, some "20240108", none, none⟩,
    ⟨⟨"c: 1", "2024", "", some ""⟩, none, some "invalid repeat rule", some "EmptyRule"⟩]

/-- The lines of the failure report on the three cases. -/
def rerunLines : List NestedText.Line :=
  [⟨0, .field "a".toList []⟩, ⟨4, .field "date".toList "20240101".toList⟩,
    ⟨4, .field "repeat".toList "d 0".toList⟩,
    ⟨4, .field "error".toList
      ("InvalidDayInterval: invalid day interval: " ++
        "must be positive integer between 1-400").toList⟩,
    ⟨0, .keyLine "c: 1".toList⟩, ⟨4, .field "date".toList "2024".toList⟩,
    ⟨4, .field "repeat".toList []⟩, ⟨4, .field "now".toList []⟩,
    ⟨4, .field "error".toList "EmptyRule: invalid repeat rule".toList⟩]

theorem read_rerunOutcomes :
    NestedText.read? (NestedText.write (.object (failures rerunOutcomes))) =
      some (.object (failures rerunOutcomes)) := by
  -- Values have no decidable equality: the lines are computed, the document is simplified.
  have lines :
      NestedText.contentLines? (Text.lines (NestedText.dropByteOrderMark
        (NestedText.write (.object (failures rerunOutcomes))))) = some rerunLines := by
    decide +kernel
  have document :
      NestedText.readDocument? rerunLines = some (.object (failures rerunOutcomes)) := by
    simp [NestedText.readDocument?, rerunLines, NestedText.readLines?, NestedText.readFields?,
      NestedText.readMember?, NestedText.isDeeper, NestedText.spanKeyLines, NestedText.joinLines,
      Text.join, Fields.add, Fields.has, Fields.ofPairs, Fields.put, failures, rerunOutcomes,
      Outcome.isOk, failureFields, Outcome.summaryText, optionalText]
  rw [NestedText.read?, lines]
  exact document

/-- The two failed cases are loaded again, one without a reference, one with an empty one. -/
theorem failures_rerun_references :
    ∃ report text, ofCases .default leapDay rerunCases = .ok report ∧
      (Outcome.failedIds report.outcomes).Nodup ∧ report.failuresText = some text ∧
      NestedText.read? text = some (.object (failures report.outcomes)) ∧
      CaseFile.loadText "out/failures.nt" text =
        .ok [⟨"a", "20240101", "d 0", none⟩, ⟨"c: 1", "2024", "", some ""⟩] ∧
      evaluateAll .default leapDay
          [⟨"a", "20240101", "d 0", none⟩, ⟨"c: 1", "2024", "", some ""⟩] =
        .ok (Outcome.failed report.outcomes) := by
  have evaluated : evaluateAll .default leapDay rerunCases = .ok rerunOutcomes := by
    apply eq_ok_of_toOption
    decide +kernel
  have whole : ∀ outcome ∈ rerunOutcomes, outcome.IsWhole := by decide
  obtain ⟨report, made, sameOutcomes⟩ := ofCases_outcomes_iff.mpr ⟨evaluated, whole⟩
  have distinct : (Outcome.failedIds report.outcomes).Nodup := by
    rw [sameOutcomes]
    decide
  have saved :
      report.failuresText = some (NestedText.write (.object (failures report.outcomes))) := by
    rw [failuresText, sameOutcomes]
    rfl
  have read :
      NestedText.read? (NestedText.write (.object (failures report.outcomes))) =
        some (.object (failures report.outcomes)) := by
    rw [sameOutcomes]
    exact read_rerunOutcomes
  obtain ⟨_, loaded, again, _⟩ :=
    failures_rerun .default leapDay rerunCases report "out" _ made distinct saved read
  have failedCases :
      (Outcome.failed report.outcomes).map Outcome.input =
        [⟨"a", "20240101", "d 0", none⟩, ⟨"c: 1", "2024", "", some ""⟩] := by
    rw [sameOutcomes]
    rfl
  rw [failedCases] at loaded again
  exact ⟨report, _, made, distinct, saved, read, loaded, again⟩

end Evaluation

end Report

end Recurrence
