import Recurrence.Calendar.DayNumber
import Recurrence.Rule.Advance

namespace Recurrence

/-!
# Windows of days

A search looks through a window of consecutive days in ascending order.  The
first day that it accepts is therefore the earliest acceptable day of the
window, and when it accepts none there is none.
-/

namespace Date

/-- Consecutive days ascend. -/
theorem pairwise_daysFrom
    (date : Date)
    (count : Nat) :
    (date.daysFrom count).Pairwise (· < ·) := by
  induction count generalizing date with
  | zero => exact List.Pairwise.nil
  | succ count inductionHypothesis =>
      rw [daysFrom]
      cases next : date.next? with
      | none => exact List.pairwise_singleton _ _
      | some following =>
          refine List.pairwise_cons.mpr ⟨fun day member => ?_, inductionHypothesis following⟩
          have numbered := number_of_next? next
          have window := mem_daysFrom_iff.mp member
          show date.number < day.number
          omega

/-- The days after a date are those with the numbers after its own. -/
theorem mem_daysAfter_iff
    {date day : Date}
    {count : Nat} :
    day ∈ date.daysAfter count ↔
      date.number < day.number ∧ day.number ≤ date.number + count := by
  rw [daysAfter]
  cases next : date.next? with
  | some following =>
      have numbered := number_of_next? next
      simp only [mem_daysFrom_iff]
      omega
  | none =>
      have last := number_of_next?_eq_none next
      have atMost := (exists_number_eq_iff.mp ⟨day, rfl⟩).2
      simp only [List.not_mem_nil, false_iff]
      omega

theorem pairwise_daysAfter
    (date : Date)
    (count : Nat) :
    (date.daysAfter count).Pairwise (· < ·) := by
  rw [daysAfter]
  cases date.next? with
  | some following => exact following.pairwise_daysFrom count
  | none => exact List.Pairwise.nil

/-- Of ascending days the first acceptable one is not after any other acceptable one. -/
theorem le_of_find?_eq_some
    {days : List Date}
    {wanted : Date → Bool}
    {found day : Date}
    (ascending : days.Pairwise (· < ·))
    (first : days.find? wanted = some found)
    (member : day ∈ days)
    (accepted : wanted day = true) :
    found ≤ day := by
  obtain ⟨_, before, after, shape, rejected⟩ :=
    List.find?_eq_some_iff_append.mp first
  rw [shape] at member ascending
  rcases List.mem_append.mp member with inBefore | inRest
  · have refused := rejected day inBefore
    simp [accepted] at refused
  · rcases List.mem_cons.mp inRest with isFound | inAfter
    · subst isFound
      exact Int.le_refl day.number
    · have tail := (List.pairwise_append.mp ascending).2.1
      exact Int.le_of_lt ((List.pairwise_cons.mp tail).1 day inAfter)

end Date

end Recurrence
