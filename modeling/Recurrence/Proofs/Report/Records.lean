import Recurrence.Error.Result
import Recurrence.Proofs.CaseFile.Objects

namespace Recurrence

open List

/-!
# Record files read again

Outcomes with whole texts have a record file, and others have none.  Every outcome is a line
of it.  The line is never blank and holds no line break, whatever is in the texts of the
outcome, so reading the file as JSON lines gives one object for each outcome, and the
object describes that outcome.
-/

/-- A line is the record of an outcome: a single line that is read as the outcome. -/
structure IsRecordLine (line : List Char) (outcome : Outcome) : Prop where
  record : outcome.record = .ok line
  noLineFeed : '\n' ∉ line
  noReturn : '\r' ∉ line
  notBlank : line.all Text.isBlank = false
  document : ∃ document, CaseFile.readJson line = .ok document ∧ Describes document outcome

namespace Outcome

/-- The text of the object of an outcome. -/
def objectText (outcome : Outcome) : List Char :=
  Json.write .compact outcome.toValue

section Lines

variable {outcome : Outcome}

theorem record_of_isWhole
    (whole : outcome.IsWhole) :
    outcome.record = .ok outcome.objectText :=
  if_pos (isWhole_toValue_iff.mpr whole)

theorem record_of_not_isWhole
    (broken : ¬ outcome.IsWhole) :
    outcome.record = .error .brokenText :=
  if_neg fun whole => broken (isWhole_toValue_iff.mp whole)

theorem printed_of_mem_objectText
    {c : Char}
    (whole : outcome.IsWhole)
    (member : c ∈ outcome.objectText) :
    0x20 ≤ c.toNat :=
  Json.printed_writeValue whole.writable_toValue c member

/-- The text of an outcome is read as the object of the outcome. -/
theorem readJson_objectText
    (whole : outcome.IsWhole) :
    CaseFile.readJson outcome.objectText = .ok outcome.toValue := by
  rw [CaseFile.readJson, mapError_eq_ok_iff]
  exact Json.read_write Json.Style.separates_compact whole.writable_toValue

theorem isRecordLine_objectText
    (whole : outcome.IsWhole) :
    IsRecordLine outcome.objectText outcome where
  record := record_of_isWhole whole
  noLineFeed member := absurd (printed_of_mem_objectText whole member) (by decide)
  noReturn member := absurd (printed_of_mem_objectText whole member) (by decide)
  notBlank := by
    have brace : '\x7b' ∈ outcome.objectText := List.mem_cons_self
    rw [List.all_eq_false]
    exact ⟨'\x7b', brace, by decide⟩
  document := ⟨outcome.toValue, readJson_objectText whole, outcome.describes_toValue⟩

end Lines

section Files

variable {outcomes : List Outcome}

/-- The text of a record file. -/
def fileText (outcomes : List Outcome) : List Char :=
  (outcomes.map objectText).flatMap fun line => line ++ ['\n']

theorem records_of_isWhole
    (whole : ∀ outcome ∈ outcomes, outcome.IsWhole) :
    records outcomes = .ok (fileText outcomes) := by
  induction outcomes with
  | nil => rfl
  | cons outcome others inductionHypothesis =>
      obtain ⟨firstWhole, othersWhole⟩ := List.forall_mem_cons.mp whole
      rw [records, record_of_isWhole firstWhole, inductionHypothesis othersWhole, fileText,
        fileText, List.map_cons, List.flatMap_cons, List.append_assoc]
      rfl

theorem records_of_not_isWhole
    (broken : ¬ ∀ outcome ∈ outcomes, outcome.IsWhole) :
    records outcomes = .error .brokenText := by
  induction outcomes with
  | nil => exact (broken (List.forall_mem_nil _)).elim
  | cons outcome others inductionHypothesis =>
      rw [List.forall_mem_cons, not_and] at broken
      rw [records]
      by_cases firstWhole : outcome.IsWhole
      · rw [record_of_isWhole firstWhole, inductionHypothesis (broken firstWhole)]
        rfl
      · rw [record_of_not_isWhole firstWhole]
        rfl

/-- Only outcomes with whole texts have a record file. -/
theorem records_eq_ok_iff
    {text : List Char} :
    records outcomes = .ok text ↔
      (∀ outcome ∈ outcomes, outcome.IsWhole) ∧ fileText outcomes = text := by
  by_cases whole : ∀ outcome ∈ outcomes, outcome.IsWhole
  · rw [records_of_isWhole whole, Except.ok.injEq, and_iff_right whole]
  · rw [records_of_not_isWhole whole]
    exact iff_of_false nofun fun both => whole both.1

theorem isRecordLine_objectTexts
    (whole : ∀ outcome ∈ outcomes, outcome.IsWhole) :
    Forall₂ IsRecordLine (outcomes.map objectText) outcomes := by
  rw [forall₂_map_left_iff, forall₂_same]
  exact fun outcome member => isRecordLine_objectText (whole outcome member)

theorem splitOn_fileText
    (whole : ∀ outcome ∈ outcomes, outcome.IsWhole) :
    Text.splitOn '\n' (fileText outcomes) = outcomes.map objectText ++ [[]] := by
  apply Text.splitOn_terminated
  intro line member
  obtain ⟨outcome, inside, rfl⟩ := List.mem_map.mp member
  exact (isRecordLine_objectText (whole outcome inside)).noLineFeed

/-- No line break is changed when the record file is read. -/
theorem lines_fileText
    (whole : ∀ outcome ∈ outcomes, outcome.IsWhole) :
    Text.lines (fileText outcomes) = outcomes.map objectText ++ [[]] := by
  rw [Text.lines, Text.normalizeNewlines_of_free, splitOn_fileText whole]
  intro member
  obtain ⟨line, isLine, inside⟩ := List.mem_flatMap.mp member
  obtain ⟨outcome, inOutcomes, rfl⟩ := List.mem_map.mp isLine
  rcases List.mem_append.mp inside with inRecord | lineFeed
  · exact (isRecordLine_objectText (whole outcome inOutcomes)).noReturn inRecord
  · exact absurd (List.mem_singleton.mp lineFeed) (by decide)

/-- The lines of the record file are read one by one; the end of the file is no line. -/
theorem readJsonLines_objectTexts
    (whole : ∀ outcome ∈ outcomes, outcome.IsWhole) :
    CaseFile.readJsonLines (outcomes.map objectText ++ [[]]) = .ok (outcomes.map toValue) := by
  induction outcomes with
  | nil => rfl
  | cons outcome others inductionHypothesis =>
      obtain ⟨firstWhole, othersWhole⟩ := List.forall_mem_cons.mp whole
      rw [List.map_cons, List.cons_append, CaseFile.readJsonLines,
        (isRecordLine_objectText firstWhole).notBlank, readJson_objectText firstWhole,
        inductionHypothesis othersWhole]
      rfl

/--
The record file of outcomes with whole texts has one line for every outcome, ended by a line
feed, and no other line.  Reading it gives as many objects, in the same order, each of which
describes the outcome that was written, whatever characters are in its texts.
-/
theorem records_reload
    (path : String)
    (outcomes : List Outcome)
    (whole : ∀ outcome ∈ outcomes, outcome.IsWhole) :
    ∃ text lines documents,
      records outcomes = .ok text ∧
      text = lines.flatMap (fun line => line ++ ['\n']) ∧
      Text.splitOn '\n' text = lines ++ [[]] ∧
      Text.lines text = lines ++ [[]] ∧
      Forall₂ IsRecordLine lines outcomes ∧
      CaseFile.readText path .jsonLines text = .ok (.list documents) ∧
      Forall₂ Describes documents outcomes := by
  refine ⟨fileText outcomes, outcomes.map objectText, outcomes.map toValue,
    records_of_isWhole whole, rfl, splitOn_fileText whole, lines_fileText whole,
    isRecordLine_objectTexts whole, ?_, ?_⟩
  · rw [CaseFile.readText, lines_fileText whole, readJsonLines_objectTexts whole]
    rfl
  · rw [forall₂_map_left_iff, forall₂_same]
    exact fun outcome _ => outcome.describes_toValue

/-- An outcome with line breaks of all sorts in its texts. -/
def brokenLines : Outcome :=
  ⟨⟨"a\nb\r", "\"\\", "\x85\u2028", none⟩, none, some "\r\n", some ""⟩

/-- Line breaks in the texts of an outcome do not break its line. -/
theorem records_reload_brokenLines :
    (∀ outcome ∈ [brokenLines, brokenLines], outcome.IsWhole) ∧
      ∃ text lines, records [brokenLines, brokenLines] = .ok text ∧
        Text.lines text = lines ++ [[]] ∧ lines.length = 2 := by
  have whole : ∀ outcome ∈ [brokenLines, brokenLines], outcome.IsWhole := by
    decide
  obtain ⟨text, lines, _, written, _, _, separated, each, _⟩ :=
    records_reload "r.jsonl" [brokenLines, brokenLines] whole
  exact ⟨whole, text, lines, written, separated, each.length_eq⟩

end Files

end Outcome

end Recurrence
