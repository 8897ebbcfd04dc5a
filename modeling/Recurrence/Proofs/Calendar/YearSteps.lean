import Recurrence.Proofs.Calendar.DaySteps

namespace Recurrence

/-!
# Steps by years

A step by years keeps the month and the day, but takes a day that the month does not have back
to its last one.  Only a 29 February can be taken back so, and once it has been, a further step
does not bring it again: two steps lead elsewhere than one step of their sum exactly if a leap
day passes through a common year to a leap year.  A step fails exactly if its year is not on the
calendar, for its size if it is no word of 32 bits.
-/

theorem fitsWord_32_iff
    {number : Int} :
    fitsWord 32 number = true ↔ -2147483648 ≤ number ∧ number ≤ 2147483647 := by
  have bound : ((Nat.pow 2 (32 - 1) : Nat) : Int) = 2147483648 := by decide
  simp only [fitsWord, bound, Bool.and_eq_true, decide_eq_true_eq]
  omega

namespace Date

/-- A leap day loses its day on the way through a common year to a leap year. -/
structure LosesLeapDay (date : Date) (between last : Int) : Prop where
  leapDay : date.month = 2 ∧ date.day = 29
  common : isLeap between = false
  leap : isLeap last = true

section Steps

variable {date next other : Date} {years : Int}

/-- Dates with the same parts are the same. -/
theorem eq_of_parts
    (sameYear : date.year = other.year)
    (sameMonth : date.month = other.month)
    (sameDay : date.day = other.day) :
    date = other := by
  have found := ofYearMonthDay?_eq_some_iff.mpr ⟨sameYear, sameMonth, sameDay⟩
  exact Option.some.inj (found.symm.trans other.ofYearMonthDay?_self)

theorem fitsWord_of_onCalendar
    {year : Int}
    (onCalendar : 1 ≤ year ∧ year ≤ 9999) :
    fitsWord 32 year = true :=
  fitsWord_32_iff.mpr ⟨by omega, by omega⟩

/-- The day that a step asks for is one of its month. -/
theorem clampedDay_range
    (date : Date)
    (year : Int) :
    1 ≤ min date.day (monthLength year date.month) ∧
      min date.day (monthLength year date.month) ≤ monthLength year date.month := by
  have positive := date.day_range.1
  have shortest := le_monthLength year date.month
  omega

/-- A step leads to the year that is asked for, with the day taken back to the end of the month. -/
theorem shiftYears_eq_ok_iff :
    date.shiftYears years = .ok next ↔
      next.year = date.year + years ∧ next.month = date.month ∧
        next.day = min date.day (monthLength (date.year + years) date.month) := by
  rw [← ofYearMonthDay?_eq_some_iff, shiftYears, addYears?]
  by_cases fits : fitsWord 32 (date.year + years) = true
  · rw [if_pos fits]
    split
    · rename_i shifted found
      rw [found, Except.ok.injEq, Option.some.injEq]
    · rename_i missing
      rw [missing]
      simp
  · rw [if_neg fits]
    constructor
    · intro impossible
      cases impossible
    · intro found
      have sameYear := (ofYearMonthDay?_eq_some_iff.mp found).1
      exact absurd (fitsWord_of_onCalendar (sameYear ▸ next.year_range)) fits

theorem exists_shiftYears_iff :
    (∃ next, date.shiftYears years = .ok next) ↔
      1 ≤ date.year + years ∧ date.year + years ≤ 9999 := by
  constructor
  · rintro ⟨next, stepped⟩
    rw [← (shiftYears_eq_ok_iff.mp stepped).1]
    exact next.year_range
  · intro onCalendar
    obtain ⟨next, found⟩ :=
      exists_ofYearMonthDay? onCalendar date.month_range
        (date.clampedDay_range (date.year + years))
    exact ⟨next, shiftYears_eq_ok_iff.mpr (ofYearMonthDay?_eq_some_iff.mp found)⟩

/-- A step fails because its year is not on the calendar. -/
theorem shiftYears_eq_yearRange_iff
    {year : Int} :
    date.shiftYears years = .error (.yearRange year) ↔
      year = date.year + years ∧ ¬(1 ≤ year ∧ year ≤ 9999) ∧
        -2147483648 ≤ year ∧ year ≤ 2147483647 := by
  rw [← fitsWord_32_iff]
  constructor
  · intro failed
    have offCalendar : ¬ ∃ next, date.shiftYears years = .ok next := by
      rintro ⟨next, stepped⟩
      cases failed.symm.trans stepped
    rw [exists_shiftYears_iff] at offCalendar
    rw [shiftYears] at failed
    split at failed
    · rename_i fits
      split at failed
      · cases failed
      · cases failed
        exact ⟨rfl, offCalendar, fits⟩
    · cases failed
  · rintro ⟨rfl, offCalendar, fits⟩
    rw [shiftYears, if_pos fits, addYears?]
    cases found : ofYearMonthDay? (date.year + years) date.month
        (min date.day (monthLength (date.year + years) date.month)) with
    | none => rfl
    | some next =>
        have sameYear := (ofYearMonthDay?_eq_some_iff.mp found).1
        exact absurd (sameYear ▸ next.year_range) offCalendar

/-- A step fails for the size of its year. -/
theorem shiftYears_eq_yearSize_iff
    {year : Int} :
    date.shiftYears years = .error (.yearSize year) ↔
      year = date.year + years ∧ ¬(-2147483648 ≤ year ∧ year ≤ 2147483647) := by
  rw [← fitsWord_32_iff]
  constructor
  · intro failed
    rw [shiftYears] at failed
    split at failed
    · split at failed
      · cases failed
      · cases failed
    · rename_i tooLarge
      cases failed
      exact ⟨rfl, tooLarge⟩
  · rintro ⟨rfl, tooLarge⟩
    rw [shiftYears, if_neg tooLarge]

end Steps

section TwoSteps

variable {date between twice once : Date} {first second : Int}

/-- The day after two steps is taken back twice. -/
theorem day_of_steps
    (firstStep : date.shiftYears first = .ok between)
    (secondStep : between.shiftYears second = .ok twice) :
    twice.day =
      min (min date.day (monthLength (date.year + first) date.month))
        (monthLength (date.year + first + second) date.month) := by
  obtain ⟨betweenYear, betweenMonth, betweenDay⟩ := shiftYears_eq_ok_iff.mp firstStep
  obtain ⟨_, _, twiceDay⟩ := shiftYears_eq_ok_iff.mp secondStep
  rw [twiceDay, betweenDay, betweenYear, betweenMonth]

/-- A leap day that is lost is replaced by 28 February. -/
theorem day_of_losesLeapDay
    (loses : date.LosesLeapDay (date.year + first) (date.year + first + second))
    (firstStep : date.shiftYears first = .ok between)
    (secondStep : between.shiftYears second = .ok twice)
    (oneStep : date.shiftYears (first + second) = .ok once) :
    twice.day = 28 ∧ once.day = 29 := by
  obtain ⟨⟨february, last⟩, common, leap⟩ := loses
  have twiceDay := day_of_steps firstStep secondStep
  obtain ⟨_, _, onceDay⟩ := shiftYears_eq_ok_iff.mp oneStep
  rw [← Int.add_assoc] at onceDay
  rw [february, last] at twiceDay onceDay
  rw [twiceDay, onceDay]
  simp [monthLength, common, leap]

/-- Any other day is taken back by two steps as by one. -/
theorem day_of_kept
    (kept : ¬ date.LosesLeapDay (date.year + first) (date.year + first + second))
    (firstStep : date.shiftYears first = .ok between)
    (secondStep : between.shiftYears second = .ok twice)
    (oneStep : date.shiftYears (first + second) = .ok once) :
    twice.day = once.day := by
  have twiceDay := day_of_steps firstStep secondStep
  obtain ⟨_, _, onceDay⟩ := shiftYears_eq_ok_iff.mp oneStep
  rw [← Int.add_assoc] at onceDay
  rw [twiceDay, onceDay]
  by_cases moved : date.isLeapDay = true ∧ isLeap (date.year + first) = false
  · obtain ⟨leapDay, common⟩ := moved
    obtain ⟨february, last⟩ := isLeapDay_iff.mp leapDay
    have alsoCommon : isLeap (date.year + first + second) = false := by
      apply Bool.eq_false_iff.mpr
      intro leap
      exact kept ⟨⟨february, last⟩, common, leap⟩
    rw [february, last]
    simp [monthLength, common, alsoCommon]
  · rw [Nat.min_eq_left (date.day_le_monthLength moved)]

end TwoSteps

/--
Where both steps stay on the calendar, two steps lead to the same date as one step of their sum,
unless a leap day passes through a common year to a leap year: two steps then lead to 28 February
and one to 29 February.  A step succeeds exactly if its year is on the calendar.  A year that is
not is reported as out of range if it is a word of 32 bits, and otherwise for its size.
-/
theorem shiftYears_twice
    (date : Date) :
    (∀ first second,
        1 ≤ date.year + first ∧ date.year + first ≤ 9999 →
        1 ≤ date.year + first + second ∧ date.year + first + second ≤ 9999 →
        ∃ between twice once,
          date.shiftYears first = .ok between ∧ between.shiftYears second = .ok twice ∧
          date.shiftYears (first + second) = .ok once ∧
          (twice ≠ once ↔
            date.LosesLeapDay (date.year + first) (date.year + first + second)) ∧
          (twice ≠ once → twice.month = 2 ∧ twice.day = 28 ∧ once.month = 2 ∧ once.day = 29)) ∧
      ∀ years,
        ((∃ next, date.shiftYears years = .ok next) ↔
          1 ≤ date.year + years ∧ date.year + years ≤ 9999) ∧
        (∀ year, date.shiftYears years = .error (.yearRange year) ↔
          year = date.year + years ∧ ¬(1 ≤ year ∧ year ≤ 9999) ∧
            -2147483648 ≤ year ∧ year ≤ 2147483647) ∧
        (∀ year, date.shiftYears years = .error (.yearSize year) ↔
          year = date.year + years ∧ ¬(-2147483648 ≤ year ∧ year ≤ 2147483647)) := by
  constructor
  · intro first second firstRange bothRange
    obtain ⟨between, firstStep⟩ := exists_shiftYears_iff.mpr firstRange
    obtain ⟨betweenYear, betweenMonth, _⟩ := shiftYears_eq_ok_iff.mp firstStep
    obtain ⟨twice, secondStep⟩ := exists_shiftYears_iff.mpr (betweenYear ▸ bothRange)
    obtain ⟨twiceYear, twiceMonth, _⟩ := shiftYears_eq_ok_iff.mp secondStep
    obtain ⟨once, oneStep⟩ := exists_shiftYears_iff.mpr (Int.add_assoc .. ▸ bothRange)
    obtain ⟨onceYear, onceMonth, _⟩ := shiftYears_eq_ok_iff.mp oneStep
    have differs_iff :
        twice ≠ once ↔
          date.LosesLeapDay (date.year + first) (date.year + first + second) := by
      constructor
      · intro differs
        apply Classical.byContradiction
        intro kept
        apply differs
        apply eq_of_parts
        · rw [twiceYear, betweenYear, onceYear, Int.add_assoc]
        · rw [twiceMonth, betweenMonth, onceMonth]
        · exact day_of_kept kept firstStep secondStep oneStep
      · rintro loses rfl
        have days := day_of_losesLeapDay loses firstStep secondStep oneStep
        cases days.1.symm.trans days.2
    refine ⟨between, twice, once, firstStep, secondStep, oneStep, differs_iff, ?_⟩
    intro differs
    have loses := differs_iff.mp differs
    obtain ⟨twiceDay, onceDay⟩ := day_of_losesLeapDay loses firstStep secondStep oneStep
    rw [twiceMonth, betweenMonth, onceMonth]
    exact ⟨loses.leapDay.1, twiceDay, loses.leapDay.1, onceDay⟩
  · intro years
    exact ⟨exists_shiftYears_iff, fun _ => shiftYears_eq_yearRange_iff,
      fun _ => shiftYears_eq_yearSize_iff⟩

/-- A leap day passes through 2025 to 2028, where one step would have kept it. -/
theorem shiftYears_twice_leapDay :
    (1 ≤ leapDay.year + 1 ∧ leapDay.year + 1 ≤ 9999) ∧
      (1 ≤ leapDay.year + 1 + 3 ∧ leapDay.year + 1 + 3 ≤ 9999) ∧
      leapDay.LosesLeapDay (leapDay.year + 1) (leapDay.year + 1 + 3) ∧
      ∃ between twice once,
        leapDay.shiftYears 1 = .ok between ∧ between.shiftYears 3 = .ok twice ∧
        leapDay.shiftYears 4 = .ok once ∧ twice.day = 28 ∧ once.day = 29 := by
  have firstRange : 1 ≤ leapDay.year + 1 ∧ leapDay.year + 1 ≤ 9999 := by decide
  have bothRange : 1 ≤ leapDay.year + 1 + 3 ∧ leapDay.year + 1 + 3 ≤ 9999 := by decide
  have loses : leapDay.LosesLeapDay (leapDay.year + 1) (leapDay.year + 1 + 3) :=
    ⟨by decide, by decide, by decide⟩
  obtain ⟨between, twice, once, firstStep, secondStep, oneStep, differs_iff, days⟩ :=
    (shiftYears_twice leapDay).1 1 3 firstRange bothRange
  obtain ⟨_, twiceDay, _, onceDay⟩ := days (differs_iff.mpr loses)
  exact ⟨firstRange, bothRange, loses, between, twice, once, firstStep, secondStep, oneStep,
    twiceDay, onceDay⟩

/-- A year that is no word of 32 bits is not on the calendar, but is not reported so. -/
theorem shiftYears_beyondWord :
    ¬(1 ≤ leapDay.year + 2147483648 ∧ leapDay.year + 2147483648 ≤ 9999) ∧
      leapDay.shiftYears 2147483648 = .error (.yearSize 2147485672) ∧
      ∀ year, leapDay.shiftYears 2147483648 ≠ .error (.yearRange year) := by
  have failed : leapDay.shiftYears 2147483648 = .error (.yearSize 2147485672) :=
    shiftYears_eq_yearSize_iff.mpr ⟨by decide, by decide⟩
  refine ⟨by decide, failed, ?_⟩
  intro year outOfRange
  cases failed.symm.trans outOfRange

end Date

end Recurrence
