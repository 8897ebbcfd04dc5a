import Recurrence.Proofs.Advance.Moments

namespace Recurrence

/-!
# How a rule fails to advance

A rule advances exactly if it recurs after the reference; otherwise it fails in a way
that depends on its start alone.  The wording of the failure tells a rule that leaves
the calendar from one that finds nothing in its window.
-/

section Outcomes

variable {rule : Rule} {start now : Moment} {error : AdvanceError}

/-- A rule advances exactly if it recurs after the reference. -/
theorem exists_advanceRule_iff :
    (∃ next, advanceRule (some rule) start now = .ok next) ↔
      ∃ date ∈ rule.occurrences start.date, now.date < date := by
  constructor
  · rintro ⟨next, found⟩
    have successor := advanceRule_eq_ok_iff.mp found
    exact ⟨next, successor.member, successor.after⟩
  · rintro ⟨date, member, after⟩
    cases outcome : advanceRule (some rule) start now with
    | ok next => exact ⟨next, rfl⟩
    | error failure =>
        have noneAfter := advanceRule_eq_error_iff.mp ⟨failure, outcome⟩
        exact absurd after (noneAfter date member)

/-- A rule that recurs after the reference advances, and not past the day on which it does. -/
theorem exists_advanceRule_le
    {date : Date}
    (member : date ∈ rule.occurrences start.date)
    (after : now.date < date) :
    ∃ next, advanceRule (some rule) start now = .ok next ∧ next ≤ date := by
  obtain ⟨next, advanced⟩ := exists_advanceRule_iff.mpr ⟨date, member, after⟩
  exact ⟨next, advanced, (advanceRule_eq_ok_iff.mp advanced).first member after⟩

/-- A rule that does not recur after the reference fails in the way that its start brings. -/
theorem advanceRule_eq_failure_iff :
    advanceRule (some rule) start now = .error error ↔
      (∀ date ∈ rule.occurrences start.date, ¬ now.date < date) ∧
        error = .noMatch (rule.failure start.date) := by
  rw [← advanceRule_eq_error_iff, advanceRule_some]
  cases outcome : rule.advance start.date now.date with
  | ok next => simp
  | error cause =>
      rw [Rule.advance_eq_error outcome]
      simp [eq_comm]

variable {days : Set Date} {next : Date}

theorem advanceRule_eq_ok_iff_of_eq
    (same : rule.occurrences start.date = days) :
    advanceRule (some rule) start now = .ok next ↔ IsSuccessor days now.date next :=
  same ▸ advanceRule_eq_ok_iff

theorem advanceRule_eq_failure_iff_of_eq
    (same : rule.occurrences start.date = days) :
    advanceRule (some rule) start now = .error error ↔
      (∀ date ∈ days, ¬ now.date < date) ∧ error = .noMatch (rule.failure start.date) :=
  same ▸ advanceRule_eq_failure_iff

end Outcomes

namespace NoMatch

variable {cause : NoMatch}

/-- The texts on both sides of a window's length make one text with it. -/
theorem append_joined
    {before length after phrase : String}
    (joined : before ++ length ++ after = phrase)
    (subject start : String) :
    subject ++ before ++ (length ++ after ++ start) = subject ++ phrase ++ start := by
  rw [← joined]
  simp only [String.append_assoc]

theorem message_weekdays
    (rule : Weekly)
    (start : Date) :
    (weekdays rule start).message =
      "no date matching weekdays " ++ bracketed rule.weekdays ++
        " found within 730 days of " ++ String.ofList start.iso := by
  have joined : " found within " ++ "730" ++ " days of " = " found within 730 days of " := by
    decide
  exact append_joined joined ("no date matching weekdays " ++ bracketed rule.weekdays)
    (String.ofList start.iso)

theorem message_monthDays
    (rule : Monthly)
    (start : Date) :
    (monthDays rule start).message =
      "no date matching '" ++ String.ofList (Rule.monthly rule).toText ++
        "' found within 1000 days of " ++ String.ofList start.iso := by
  have joined : "' found within " ++ "1000" ++ " days of " = "' found within 1000 days of " := by
    decide
  exact append_joined joined ("no date matching '" ++ String.ofList (Rule.monthly rule).toText)
    (String.ofList start.iso)

/-- No other failure is worded like one for leaving the calendar. -/
theorem message_eq_offCalendar_iff :
    cause.message = "next date is out of the supported date range" ↔
      cause = .offCalendar := by
  constructor
  · intro same
    cases cause with
    | offCalendar => rfl
    | weekdays rule start =>
        rw [message_weekdays] at same
        have sameStart := congrArg String.toList same
        simp [String.toList_append] at sameStart
    | monthDays rule start =>
        rw [message_monthDays] at same
        have sameStart := congrArg String.toList same
        simp [String.toList_append] at sameStart
  · rintro rfl
    rfl

/-- Of two causes the first of which is leaving the calendar, the wording tells which it is. -/
theorem message_choice_iff
    {past : Prop}
    [Decidable past]
    {exhausted : NoMatch}
    (onCalendar : exhausted ≠ .offCalendar) :
    (if past then offCalendar else exhausted).message =
        "next date is out of the supported date range" ↔
      past := by
  rw [message_eq_offCalendar_iff]
  by_cases isPast : past
  · simp [isPast]
  · simp [isPast, onCalendar]

end NoMatch

end Recurrence
