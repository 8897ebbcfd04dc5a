import Recurrence.Proofs.Calendar.DateLayout
import Recurrence.Proofs.Scheduler.DateTexts

namespace Recurrence

/-!
# Dates exchanged in a layout

A scheduler that is given a date layout of its own reads the dates it writes from the year 1000
on.  Before that it may write what it does not read, and it does so for every date if its layout
separates the parts of a date by text without digits.
-/

/-- Day, month and year with dots between them. -/
def dottedLayout : DateLayout where
  lead := []
  fields :=
    [⟨.day, ['.'], List.forall_mem_singleton.mpr (by decide)⟩,
      ⟨.month, ['.'], List.forall_mem_singleton.mpr (by decide)⟩, ⟨.year, [], nofun⟩]
  plain := nofun
  eachOnce := by decide

/-- 7 May 812. -/
def earlyDay : Date :=
  ⟨812, 5, 7, by decide, by decide, by decide⟩

namespace Scheduler

/-- A scheduler that exchanges dates in a layout. -/
def withLayout (strict : Bool) (layout : DateLayout) : Scheduler :=
  ⟨strict, .ofText (String.ofList layout.text)⟩

/--
In every layout of year, month and day, a date from the year 1000 on is read back from what is
written for it.  If text without digits separates the three, what is written for a date before
the year 1000 is an invalid date.
-/
theorem layoutDates_roundTrip
    (strict : Bool)
    (layout : DateLayout) :
    (∀ date : Date, 1000 ≤ date.year →
      (withLayout strict layout).readDate (some ((withLayout strict layout).writeDate date)) =
        .ok date) ∧
      (LaidField.Separated layout.fields → ∀ date : Date, date.year < 1000 →
        (withLayout strict layout).readDate (some ((withLayout strict layout).writeDate date)) =
          .error (.recurrence .invalidDate)) := by
  constructor
  · intro date late
    rw [readDate_eq_ok_iff]
    refine ⟨_, rfl, ?_⟩
    rw [writeDate, String.toList_ofList]
    exact layout.read?_write late
  · intro separated date early
    have unread :
        (withLayout strict layout).format.read?
          ((withLayout strict layout).writeDate date).toList = none := by
      rw [writeDate, String.toList_ofList]
      exact DateLayout.read?_write_early separated early
    rw [readDate, Option.bind_some, unread]

/-- With dots between its parts, a day of 2024 is read back and one of 812 is not. -/
theorem layoutDates_roundTrip_dotted :
    (1000 ≤ leapDay.year ∧
        (withLayout false dottedLayout).readDate (some "29.02.2024") = .ok leapDay) ∧
      (LaidField.Separated dottedLayout.fields ∧ earlyDay.year < 1000 ∧
        (withLayout false dottedLayout).readDate (some "07.05.812") =
          .error (.recurrence .invalidDate)) := by
  obtain ⟨readsBack, refuses⟩ := layoutDates_roundTrip false dottedLayout
  have late : 1000 ≤ leapDay.year := by decide
  have early : earlyDay.year < 1000 := by decide
  have separated : LaidField.Separated dottedLayout.fields := by
    constructor
    case noDigit => simp [dottedLayout]
    case apart => simp [dottedLayout]
  have lateText : (withLayout false dottedLayout).writeDate leapDay = "29.02.2024" := by
    decide +kernel
  have earlyText : (withLayout false dottedLayout).writeDate earlyDay = "07.05.812" := by
    decide +kernel
  rw [← lateText, ← earlyText]
  exact ⟨⟨late, readsBack leapDay late⟩, separated, early, refuses separated earlyDay early⟩

end Scheduler

end Recurrence
