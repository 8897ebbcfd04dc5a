import Recurrence.CaseFile
import Recurrence.NestedText.Saving
import Recurrence.Scheduler
import Recurrence.Summary

namespace Recurrence

/-!
# Batch reports

A batch evaluates all cases of a file, in order.  Its report has three texts: the
records of all outcomes, the summary, and the failures if there are any.  The
records are written first, and a batch with a broken text stops there.  The
failures are a case file again, an object with one field for every id; an id that
failed more than once keeps its first place and its last failure.
-/

/-- What a batch gives: the outcomes of all cases, the text of the record file and the summary. -/
structure Report where
  outcomes : List Outcome
  recordsText : List Char
  summary : Summary
  deriving Repr, DecidableEq

/-- Why a batch stops without a report. -/
inductive BatchError where
  | load (error : LoadError)
  | oversized (number : Text.Oversized)
  | write (error : WriteError)
  | mixedKinds (mixed : MixedKinds)
  deriving Repr, DecidableEq

namespace Report

/-- The outcomes of cases, in order. -/
def evaluateAll
    (scheduler : Scheduler)
    (today : Date) :
    List Case → Except BatchError (List Outcome)
  | [] => .ok []
  | first :: others => do
      let outcome ← (scheduler.evaluate today first).mapError BatchError.oversized
      let outcomes ← evaluateAll scheduler today others
      return outcome :: outcomes

/-- The report on cases. -/
def ofCases
    (scheduler : Scheduler)
    (today : Date)
    (cases : List Case) :
    Except BatchError Report := do
  let outcomes ← evaluateAll scheduler today cases
  let recordsText ← (Outcome.records outcomes).mapError BatchError.write
  let summary ← (Summary.ofOutcomes outcomes).mapError BatchError.mixedKinds
  return ⟨outcomes, recordsText, summary⟩

/-- The report on the cases in the text of a file. -/
def ofText
    (scheduler : Scheduler)
    (today : Date)
    (path : String)
    (text : List Char) :
    Except BatchError Report := do
  let cases ← (CaseFile.loadText path text).mapError BatchError.load
  ofCases scheduler today cases

/-- The text of the summary file. -/
def summaryText (report : Report) : List Char :=
  report.summary.text

/-- The fields of a failed case in the failure report. -/
def failureFields (outcome : Outcome) : Fields Value :=
  let request : Fields Value :=
    [("date", .text outcome.input.date), ("repeat", .text outcome.input.rule)]
  let now : Fields Value :=
    match outcome.input.now with
    | some now => [("now", .text now)]
    | none => []
  (request ++ now).add "error" (optionalText outcome.summaryText)

/-- The failures of a batch by case id. -/
def failures (outcomes : List Outcome) : Fields Value :=
  Fields.ofPairs ((outcomes.filter fun outcome => !outcome.isOk).map fun outcome =>
    (outcome.input.id, .object (failureFields outcome)))

/-- The text of the failure file, if there is a failure. -/
def failuresText (report : Report) : Option (List Char) :=
  let failed := failures report.outcomes
  if failed.isEmpty then none else some (NestedText.write (.object failed))

end Report

end Recurrence
