import Mathlib.Data.Set.Defs
import Recurrence.Calendar.DayNumber
import Recurrence.Rule.Advance

namespace Recurrence

/-!
# Successors in a set of dates

A rule begun on some day recurs on a set of dates that does not depend on any
reference date.  What a search should find is the successor of the reference in
that set: its first member after the reference.  What is said here about searches
and successors holds for any set of dates.
-/

/-- The dates on which a task scheduled for `start` recurs. -/
def Rule.occurrences (rule : Rule) (start : Date) : Set Date :=
  {date | rule.Occurs start date}

/-- The first member of a set of dates that comes after a reference date. -/
structure IsSuccessor (dates : Set Date) (now next : Date) : Prop where
  member : next ∈ dates
  after : now < next
  first : ∀ {date}, date ∈ dates → now < date → next ≤ date

/-- The outcome of a search: the first date after the reference, or none if there is none. -/
def FindsSuccessor (dates : Set Date) (now : Date) : Except NoMatch Date → Prop
  | .ok next => IsSuccessor dates now next
  | .error _ => ∀ date ∈ dates, ¬ now < date

namespace IsSuccessor

variable {dates : Set Date} {now later next other : Date}

/-- A reference date has one successor at most. -/
theorem unique
    (one : IsSuccessor dates now next)
    (two : IsSuccessor dates now other) :
    next = other := by
  have notAfter := one.first two.member two.after
  have notBefore := two.first one.member one.after
  rw [Date.le_iff] at notAfter notBefore
  exact Date.number_injective (Int.le_antisymm notAfter notBefore)

/-- A successor stays the successor of every reference date up to it. -/
theorem of_later
    (successor : IsSuccessor dates now next)
    (ordered : now ≤ later)
    (before : later < next) :
    IsSuccessor dates later next where
  member := successor.member
  after := before
  first member after :=
    successor.first member (Int.lt_of_le_of_lt ordered after)

/-- A successor is one in any set that has it and nothing else before it. -/
theorem transfer
    {others : Set Date}
    (successor : IsSuccessor dates now next)
    (member : next ∈ others)
    (before : ∀ {date}, date ∈ others → now < date → date < next → date ∈ dates) :
    IsSuccessor others now next where
  member := member
  after := successor.after
  first := by
    intro date otherMember after
    refine Int.not_lt.mp fun earlier => ?_
    have notEarlier := successor.first (before otherMember after earlier) after
    exact Int.not_lt.mpr notEarlier earlier

end IsSuccessor

namespace FindsSuccessor

variable {dates : Set Date} {now next : Date} {outcome : Except NoMatch Date}

/-- What a search finds is the successor, and the successor is what it finds. -/
theorem eq_ok_iff
    (finds : FindsSuccessor dates now outcome) :
    outcome = .ok next ↔ IsSuccessor dates now next := by
  cases outcome with
  | ok found =>
      constructor
      · intro same
        cases same
        exact finds
      · intro successor
        rw [finds.unique successor]
  | error cause =>
      constructor
      · intro impossible
        cases impossible
      · intro successor
        exact (finds next successor.member successor.after).elim

/-- A search fails exactly if no date of the set comes after the reference. -/
theorem eq_error_iff
    (finds : FindsSuccessor dates now outcome) :
    (∃ cause, outcome = .error cause) ↔ ∀ date ∈ dates, ¬ now < date := by
  cases outcome with
  | ok found =>
      constructor
      · rintro ⟨cause, impossible⟩
        cases impossible
      · intro noneAfter
        exact (noneAfter found finds.member finds.after).elim
  | error cause =>
      constructor
      · intro _
        exact finds
      · intro _
        exact ⟨cause, rfl⟩

end FindsSuccessor

end Recurrence
