import Recurrence.Proofs.Advance.Search
import Recurrence.Scheduler

namespace Recurrence

/-!
# Advancing a rule past a moment

A moment counts as its day.  So advancing a rule past a moment is the successor
function of the occurrences of the rule, which no reference has a part in.
-/

section Moments

variable {rule : Rule} {start now later : Moment} {next : Date}

theorem advanceRule_some
    (rule : Rule)
    (start now : Moment) :
    advanceRule (some rule) start now =
      (rule.advance start.date now.date).mapError AdvanceError.noMatch :=
  rfl

/-- A rule advances to a date exactly if that is the successor of the reference. -/
theorem advanceRule_eq_ok_iff :
    advanceRule (some rule) start now = .ok next ↔
      IsSuccessor (rule.occurrences start.date) now.date next := by
  rw [← (rule.findsSuccessor_advance start.date now.date).eq_ok_iff, advanceRule_some]
  cases rule.advance start.date now.date with
  | ok found => simp
  | error cause => simp

/-- A rule does not advance exactly if it does not recur after the reference. -/
theorem advanceRule_eq_error_iff :
    (∃ failure, advanceRule (some rule) start now = .error failure) ↔
      ∀ date ∈ rule.occurrences start.date, ¬ now.date < date := by
  rw [← (rule.findsSuccessor_advance start.date now.date).eq_error_iff, advanceRule_some]
  cases rule.advance start.date now.date with
  | ok found => simp
  | error cause => simp

/-- A rule that advances past a reference advances past every earlier one, and not further. -/
theorem exists_advanceRule_of_le
    (ordered : now.date ≤ later.date)
    (found : advanceRule (some rule) start later = .ok next) :
    ∃ first, advanceRule (some rule) start now = .ok first ∧ first ≤ next := by
  have successor := advanceRule_eq_ok_iff.mp found
  have after : now.date < next := Int.lt_of_le_of_lt ordered successor.after
  cases outcome : advanceRule (some rule) start now with
  | ok first =>
      have earlier := advanceRule_eq_ok_iff.mp outcome
      exact ⟨first, rfl, earlier.first successor.member after⟩
  | error failure =>
      have noneAfter := advanceRule_eq_error_iff.mp ⟨failure, outcome⟩
      exact absurd after (noneAfter next successor.member)

end Moments

/--
Advancing a rule is the successor function of its occurrences, a set of dates
without reference to `now`: it leads to the first of them after `now`, and fails
exactly if there is none.  So it leads past `now`; it leads to the same date from
every later reference before that date; and a reference that it can be advanced
past lies after no other one that it cannot.  The only failure is the lack of a
match, and it is the same one for every reference.
-/
theorem advanceRule_successorFunction
    (rule : Rule)
    (start now later : Moment)
    (ordered : now.date ≤ later.date) :
    (∀ next, advanceRule (some rule) start now = .ok next ↔
        IsSuccessor (rule.occurrences start.date) now.date next) ∧
      ((∃ failure, advanceRule (some rule) start now = .error failure) ↔
        ∀ date ∈ rule.occurrences start.date, ¬ now.date < date) ∧
      (∀ next, advanceRule (some rule) start now = .ok next → now.date < next) ∧
      (∀ next, advanceRule (some rule) start now = .ok next → later.date < next →
        advanceRule (some rule) start later = .ok next) ∧
      (∀ next, advanceRule (some rule) start later = .ok next →
        ∃ first, advanceRule (some rule) start now = .ok first ∧ first ≤ next) ∧
      (∀ failure, advanceRule (some rule) start now = .error failure →
        failure = .noMatch (rule.failure start.date)) := by
  refine ⟨?ofSuccessor, ?ofNone, ?past, ?stable, ?earlier, ?cause⟩
  case ofSuccessor =>
    intro next
    exact advanceRule_eq_ok_iff
  case ofNone =>
    exact advanceRule_eq_error_iff
  case past =>
    intro next found
    exact (advanceRule_eq_ok_iff.mp found).after
  case stable =>
    intro next found before
    have successor := advanceRule_eq_ok_iff.mp found
    exact advanceRule_eq_ok_iff.mpr (successor.of_later ordered before)
  case earlier =>
    intro next found
    exact exists_advanceRule_of_le ordered found
  case cause =>
    intro failure failed
    rw [advanceRule_some] at failed
    cases outcome : rule.advance start.date now.date with
    | ok found => simp [outcome] at failed
    | error cause =>
        rw [outcome] at failed
        rw [← Rule.advance_eq_error outcome]
        exact (Except.error.inj failed).symm

/--
A task of 29 February 2024 moves from 1 March 2027 to 29 February 2028, and so
it still does at the beginning of 2028.
-/
theorem advanceRule_leapDay :
    firstOfMarch ≤ ⟨2028, 1, 1, by decide, by decide, by decide⟩ ∧
      advanceRule (some .yearly) (.day leapDay) (.time firstOfMarch 3600) = .ok nextLeapDay ∧
      advanceRule (some .yearly) (.day leapDay)
          (.day ⟨2028, 1, 1, by decide, by decide, by decide⟩) =
        .ok nextLeapDay := by
  have ordered : firstOfMarch ≤ ⟨2028, 1, 1, by decide, by decide, by decide⟩ := by decide
  have found :
      advanceRule (some .yearly) (.day leapDay) (.time firstOfMarch 3600) =
        .ok nextLeapDay := rfl
  obtain ⟨_, _, _, stable, _⟩ :=
    advanceRule_successorFunction .yearly
      (.day leapDay) (.time firstOfMarch 3600) (.day _) ordered
  exact ⟨ordered, found, stable nextLeapDay found (by decide)⟩

end Recurrence
