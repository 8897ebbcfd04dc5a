import Recurrence.Proofs.Advance.MonthDayWindow
import Recurrence.Proofs.Calendar.MonthPlace

namespace Recurrence

/-!
# The reach of monthly rules

A monthly rule that lists a day which one of its months has in common years recurs
every year.  While its window has 366 days left it advances, and by no more than that.
A rule that lists no such day can recur on leap days only.  Then it advances exactly if
its window still has one, and a rule that has no leap days either never advances.
-/

namespace Monthly

/-- The rule lists a day that one of its months has in common years. -/
def RecursYearly (rule : Monthly) : Prop :=
  ∃ month ≤ 12, 1 ≤ month ∧ rule.Allows month ∧
    ∃ day ∈ rule.days.toList, day < 0 ∨ day ≤ commonLength month

instance (rule : Monthly) : Decidable rule.RecursYearly :=
  inferInstanceAs (Decidable (∃ month ≤ 12, _))

section Yearly

variable {rule : Monthly} {date : Date} {month : Nat} {day : Int}

theorem isPlace_of_mem
    (listed : day ∈ rule.days)
    (inMonth : day < 0 ∨ day ≤ commonLength month) :
    IsPlace month day := by
  obtain ⟨notZero, fromEnd, _⟩ := rule.days_range day listed
  refine ⟨notZero, by omega, ?_⟩
  rcases inMonth with backwards | atMost
  · omega
  · exact atMost

/-- A date at a place that the rule lists is a day of the rule. -/
theorem listsDay_of_atPlace
    (listed : day ∈ rule.days)
    (atPlace : date.AtPlace month day) :
    rule.ListsDay date := by
  obtain ⟨_, fromEnd, _⟩ := rule.days_range day listed
  have sameDay := atPlace.sameDay
  rw [← atPlace.sameMonth, dayAtPlace] at sameDay
  by_cases backwards : day < 0
  · rw [if_pos backwards] at sameDay
    have place : day = -1 ∨ day = -2 := by omega
    rcases place with rfl | rfl
    · exact Or.inr (Or.inl ⟨listed, by omega⟩)
    · exact Or.inr (Or.inr ⟨listed, by omega⟩)
  · rw [if_neg backwards] at sameDay
    exact Or.inl (sameDay ▸ listed)

/-- A rule that recurs every year lists one of the next 366 days. -/
theorem exists_listed_within
    (yearly : rule.RecursYearly)
    (date : Date)
    (onCalendar : date.number + 366 ≤ Date.lastNumber) :
    ∃ next : Date, date < next ∧ next.number ≤ date.number + 366 ∧
      rule.Allows next.month ∧ rule.ListsDay next := by
  obtain ⟨month, atMost, positive, allowed, day, listed, inMonth⟩ := yearly
  obtain ⟨next, after, within, atPlace⟩ :=
    (isPlace_of_mem listed inMonth).exists_within ⟨positive, atMost⟩ date onCalendar
  exact ⟨next, after, within, atPlace.sameMonth ▸ allowed, listsDay_of_atPlace listed atPlace⟩

end Yearly

section LeapDays

variable {rule : Monthly} {start date : Date}

/-- Only 29 February is a day that its month does not have in common years. -/
theorem isLeapDay_of_commonLength_lt
    (beyond : commonLength date.month < date.day) :
    date.isLeapDay = true := by
  have atMost := date.day_range.2
  have leap := leapDays_le date.year
  rw [monthLength_eq] at atMost
  by_cases february : date.month = 2
  · have common : commonLength 2 = 28 := by decide
    rw [if_pos february] at atMost
    rw [february] at beyond atMost
    exact Date.isLeapDay_iff.mpr ⟨february, by omega⟩
  · rw [if_neg february] at atMost
    omega

/-- A day of a rule that does not recur every year is a leap day, which the rule lists. -/
theorem leapDay_of_listed
    (notYearly : ¬ rule.RecursYearly)
    (allowed : rule.Allows date.month)
    (listed : rule.ListsDay date) :
    date.isLeapDay = true ∧ 29 ∈ rule.days := by
  have beyond : ∀ day ∈ rule.days, commonLength date.month < day := by
    intro day dayListed
    apply Int.not_le.mp
    intro atMost
    exact notYearly
      ⟨date.month, date.month_range.2, date.month_range.1, allowed, day, dayListed, Or.inr atMost⟩
  rcases listed with byNumber | ⟨last, _⟩ | ⟨beforeLast, _⟩
  · have isLeapDay := isLeapDay_of_commonLength_lt (Int.ofNat_lt.mp (beyond _ byNumber))
    rw [(Date.isLeapDay_iff.mp isLeapDay).2] at byNumber
    exact ⟨isLeapDay, byNumber⟩
  · have impossible := beyond (-1) last
    omega
  · have impossible := beyond (-2) beforeLast
    omega

/-- With 29 February listed, and no day of every year, a rule recurs on leap days. -/
theorem mem_listedDays_iff_leapDay
    (notYearly : ¬ rule.RecursYearly)
    (listed : 29 ∈ rule.days)
    (allowed : rule.Allows 2) :
    date ∈ rule.listedDays start ↔
      start < date ∧ date.number ≤ start.number + 1000 ∧ date.isLeapDay = true := by
  constructor
  · rintro ⟨afterStart, inWindow, monthAllowed, dayListed⟩
    exact ⟨afterStart, inWindow, (leapDay_of_listed notYearly monthAllowed dayListed).1⟩
  · rintro ⟨afterStart, inWindow, isLeapDay⟩
    obtain ⟨february, last⟩ := Date.isLeapDay_iff.mp isLeapDay
    exact ⟨afterStart, inWindow, february ▸ allowed, Or.inl (last ▸ listed)⟩

/-- Without any of these days, a rule never recurs. -/
theorem not_mem_listedDays
    (notYearly : ¬ rule.RecursYearly)
    (noLeapDay : ¬(29 ∈ rule.days ∧ rule.Allows 2))
    (date : Date) :
    date ∉ rule.listedDays start := by
  rintro ⟨_, _, allowed, dayListed⟩
  obtain ⟨isLeapDay, listed⟩ := leapDay_of_listed notYearly allowed dayListed
  exact noLeapDay ⟨listed, (Date.isLeapDay_iff.mp isLeapDay).1 ▸ allowed⟩

end LeapDays

end Monthly

/-- The later one of two dates. -/
theorem exists_later
    (first second : Date) :
    ∃ later : Date, later.number = max first.number second.number ∧
      first ≤ later ∧ second ≤ later := by
  rcases Int.le_total first.number second.number with ordered | ordered
  · exact ⟨second, (Int.max_eq_right ordered).symm, ordered, Int.le_refl second.number⟩
  · exact ⟨first, (Int.max_eq_left ordered).symm, Int.le_refl first.number, ordered⟩

section Reach

variable {rule : Monthly} {start now : Moment} {next : Date}

/-- A monthly rule advances exactly if it lists a day of its window after the reference. -/
theorem exists_advanceRule_monthly_iff :
    (∃ next, advanceRule (some (.monthly rule)) start now = .ok next) ↔
      ∃ date ∈ rule.listedDays start.date, now.date < date := by
  rw [← rule.occurrences_eq_listedDays]
  exact exists_advanceRule_iff

theorem isSuccessor_of_advanceRule_monthly
    (advanced : advanceRule (some (.monthly rule)) start now = .ok next) :
    IsSuccessor (rule.listedDays start.date) now.date next :=
  (advanceRule_eq_ok_iff_of_eq (rule.occurrences_eq_listedDays start.date)).mp advanced

/-- With 366 days of the window and the calendar left, a rule of every year advances. -/
theorem advanceRule_of_recursYearly
    (yearly : rule.RecursYearly)
    (inWindow : now.date.number ≤ start.date.number + 634)
    (onCalendar : max start.date.number now.date.number + 366 ≤ Date.lastNumber) :
    ∃ next, advanceRule (some (.monthly rule)) start now = .ok next ∧
      next.number ≤ max start.date.number now.date.number + 366 := by
  obtain ⟨later, laterNumber, fromStart, fromNow⟩ := exists_later start.date now.date
  rw [← laterNumber] at onCalendar ⊢
  obtain ⟨date, after, within, listed⟩ := Monthly.exists_listed_within yearly later onCalendar
  have afterNow : now.date < date := Int.lt_of_le_of_lt fromNow after
  have member : date ∈ rule.listedDays start.date := by
    have afterStart : start.date < date := Int.lt_of_le_of_lt fromStart after
    exact ⟨afterStart, by omega, listed⟩
  obtain ⟨next, advanced⟩ := exists_advanceRule_monthly_iff.mpr ⟨date, member, afterNow⟩
  have notLater : next ≤ date :=
    (isSuccessor_of_advanceRule_monthly advanced).first member afterNow
  exact ⟨next, advanced, Int.le_trans notLater within⟩

end Reach

/--
Which monthly rules advance.  A rule that lists a day which one of its months has in
common years does so whenever its window and the calendar have 366 days left after start
and reference, and within these days.  Any other rule that lists 29 February advances
exactly if there is a leap day in its window after start and reference, and only to leap
days.  All remaining rules never advance.
-/
theorem advanceRule_monthly_reach
    (rule : Monthly)
    (start now : Moment) :
    (rule.RecursYearly →
        now.date.number ≤ start.date.number + 634 →
        max start.date.number now.date.number + 366 ≤ Date.lastNumber →
        ∃ next, advanceRule (some (.monthly rule)) start now = .ok next ∧
          next.number ≤ max start.date.number now.date.number + 366) ∧
      (¬ rule.RecursYearly → 29 ∈ rule.days → rule.Allows 2 →
        ((∃ next, advanceRule (some (.monthly rule)) start now = .ok next) ↔
            ∃ date : Date, date.isLeapDay = true ∧
              max start.date.number now.date.number < date.number ∧
              date.number ≤ start.date.number + 1000) ∧
          ∀ next, advanceRule (some (.monthly rule)) start now = .ok next →
            next.isLeapDay = true) ∧
      (¬ rule.RecursYearly → ¬(29 ∈ rule.days ∧ rule.Allows 2) →
        advanceRule (some (.monthly rule)) start now =
          .error (.noMatch ((Rule.monthly rule).failure start.date))) := by
  refine ⟨advanceRule_of_recursYearly, ?leapDays, ?never⟩
  case leapDays =>
    intro notYearly listed allowed
    have leapDays :
        ∀ {date}, date ∈ rule.listedDays start.date ↔
          start.date < date ∧ date.number ≤ start.date.number + 1000 ∧ date.isLeapDay = true :=
      Monthly.mem_listedDays_iff_leapDay notYearly listed allowed
    constructor
    · rw [exists_advanceRule_monthly_iff]
      constructor
      · rintro ⟨date, member, afterNow⟩
        obtain ⟨afterStart, inWindow, isLeapDay⟩ := leapDays.mp member
        exact ⟨date, isLeapDay, Int.max_lt.mpr ⟨afterStart, afterNow⟩, inWindow⟩
      · rintro ⟨date, isLeapDay, after, inWindow⟩
        obtain ⟨afterStart, afterNow⟩ := Int.max_lt.mp after
        exact ⟨date, leapDays.mpr ⟨afterStart, inWindow, isLeapDay⟩, afterNow⟩
    · intro next advanced
      exact (leapDays.mp (isSuccessor_of_advanceRule_monthly advanced).member).2.2
  case never =>
    intro notYearly noLeapDay
    apply (advanceRule_eq_failure_iff_of_eq (rule.occurrences_eq_listedDays start.date)).mpr
    refine ⟨?_, rfl⟩
    intro date member
    exact absurd member (Monthly.not_mem_listedDays notYearly noLeapDay date)

/-- The monthly rule of one place in February. -/
def onceInFebruary (day : Int) (inRange : IsMonthDay day) : Monthly where
  days := ⟨[day], List.pairwise_singleton _ _⟩
  months := .ofList [2]
  days_ne_nil := List.cons_ne_nil _ _
  days_range := fun _ member => List.mem_singleton.mp member ▸ inRange
  months_range := by decide

/-- 28 February 2023, the last day of that month. -/
def lastOfFebruary : Date :=
  .ofParts 2023 2 28 (by decide)

/--
The last day of February 2024 is 366 days away from that of 2023.  From March 2027 a rule
of 29 February advances to the leap day of 2028, and a rule of 30 February never advances.
-/
theorem advanceRule_monthly_reach_february :
    ((onceInFebruary (-1) (by decide)).RecursYearly ∧
        ∃ next, advanceRule (some (.monthly (onceInFebruary (-1) (by decide))))
            (.day lastOfFebruary) (.day lastOfFebruary) = .ok next ∧
          next.number ≤ lastOfFebruary.number + 366) ∧
      (¬ (onceInFebruary 29 (by decide)).RecursYearly ∧
        ∃ next, advanceRule (some (.monthly (onceInFebruary 29 (by decide))))
            (.day firstOfMarch) (.day firstOfMarch) = .ok next ∧
          next.isLeapDay = true) ∧
      (¬ (onceInFebruary 30 (by decide)).RecursYearly ∧
        advanceRule (some (.monthly (onceInFebruary 30 (by decide))))
            (.day leapDay) (.day leapDay) =
          .error (.noMatch (.monthDays (onceInFebruary 30 (by decide)) leapDay))) := by
  refine ⟨?lastDay, ?leapDay, ?noDay⟩
  case lastDay =>
    have yearly : (onceInFebruary (-1) (by decide)).RecursYearly := by decide
    obtain ⟨reached, _⟩ :=
      advanceRule_monthly_reach (onceInFebruary (-1) (by decide))
        (.day lastOfFebruary) (.day lastOfFebruary)
    exact ⟨yearly, reached yearly (by decide) (by decide)⟩
  case leapDay =>
    have notYearly : ¬ (onceInFebruary 29 (by decide)).RecursYearly := by decide
    obtain ⟨_, onLeapDays, _⟩ :=
      advanceRule_monthly_reach (onceInFebruary 29 (by decide))
        (.day firstOfMarch) (.day firstOfMarch)
    obtain ⟨advances, onlyLeapDays⟩ := onLeapDays notYearly (by decide) (by decide)
    obtain ⟨next, advanced⟩ := advances.mpr ⟨nextLeapDay, by decide, by decide, by decide⟩
    exact ⟨notYearly, next, advanced, onlyLeapDays next advanced⟩
  case noDay =>
    have notYearly : ¬ (onceInFebruary 30 (by decide)).RecursYearly := by decide
    obtain ⟨_, _, never⟩ :=
      advanceRule_monthly_reach (onceInFebruary 30 (by decide)) (.day leapDay) (.day leapDay)
    exact ⟨notYearly, never notYearly (by decide)⟩

end Recurrence
