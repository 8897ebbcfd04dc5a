import Recurrence.Proofs.Rule.Rejection
import Recurrence.Proofs.Scheduler.Evaluation
import Recurrence.Proofs.Scheduler.Stepping

namespace Recurrence

/-!
# The outcome of a case

A case is checked in a fixed order: its rule must not be empty, then its date and its reference
must be dates, then its rule text must be a rule, and last the rule must recur after the
reference.  The outcome has the kind of the first of these checks that fails, or else the next
date.
-/

/-- A text is a string of eight digits that name a day. -/
inductive NamesDay : Wording → Date → Prop where
  | string {content : String} {day : Date}
      (named : CompactlyNames content.toList day) :
      NamesDay (.whole content) day

/-- A text names one day at most. -/
theorem NamesDay.unique
    {text : Wording}
    {day other : Date}
    (named : NamesDay text day)
    (otherNamed : NamesDay text other) :
    day = other := by
  cases named with
  | string named =>
      cases otherNamed with
      | string otherNamed =>
          cases (Date.ofCompact?_eq_some_iff.mpr named).symm.trans
            (Date.ofCompact?_eq_some_iff.mpr otherNamed)
          rfl

namespace Scheduler

section Requests

variable {scheduler : Scheduler} {now : Reference} {date : Option String} {rule : String}
variable {start reference : Date}

end Requests

section Outcomes

variable {scheduler : Scheduler} {today : Date} {request : Case}

end Outcomes

section DefaultFormat

variable {strict : Bool} {today now : Date} {request : Case}

end DefaultFormat

end Scheduler

end Recurrence
