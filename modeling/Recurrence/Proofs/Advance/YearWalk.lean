import Recurrence.Proofs.Advance.Moments
import Recurrence.Proofs.Calendar.CivilDay

namespace Recurrence

/-!
# Walking through the candidates of a yearly rule

A yearly rule has one candidate in every year after its start, also in years past the
calendar.  A walk builds one candidate after the other until one comes after the
reference.  Wherever the walk begins, if not after the first such candidate, it ends
at that candidate; begun in the year of the reference it passes one candidate at most.
Advancing a yearly rule is this walk.
-/

/-- Why the date of a candidate cannot be built. -/
inductive CandidateFault where
  | offCalendar
  | noSuchDay
  deriving Repr, DecidableEq

namespace Date

theorem march_isMonth :
    1 ≤ 3 ∧ 3 ≤ 12 := by
  decide

theorem first_isDayOfMarch
    (year : Int) :
    1 ≤ 1 ∧ 1 ≤ monthLength year 3 := by
  simp [monthLength]

/--
The candidate so many years after `start`: the same day of the same month, but
1 March for a 29 February in a common year.
-/
def candidate (start : Date) (years : Nat) : CivilDay :=
  if moved : start.isLeapDay = true ∧ isLeap (start.year + years) = false then
    ⟨start.year + years, 3, 1, march_isMonth, first_isDayOfMarch _⟩
  else
    ⟨start.year + years, start.month, start.day, start.month_range,
      start.day_range.1, start.day_le_monthLength moved⟩

/-- The date of a candidate whose year is not past the calendar, if it has that day. -/
def candidateDate? (start : Date) (years : Nat) : Option Date :=
  if start.isLeapDay then
    if isLeap (start.year + years) then
      ofYearMonthDay? (start.year + years) 2 29
    else
      ofYearMonthDay? (start.year + years) 3 1
  else
    start.addYears? years

/-- Builds the date of a candidate: the year is looked at before the day. -/
def buildCandidate (start : Date) (years : Nat) : Except CandidateFault Date :=
  if 9999 < start.year + years then
    .error .offCalendar
  else
    match start.candidateDate? years with
    | some date => .ok date
    | none => .error .noSuchDay

theorem year_le_of_buildCandidate
    {start date : Date}
    {years : Nat}
    (built : start.buildCandidate years = .ok date) :
    start.year + years ≤ 9999 := by
  unfold buildCandidate at built
  split at built
  · cases built
  · omega

end Date

/-- What a walk comes to: the number of candidates that it passes, and where it ends. -/
structure YearWalk where
  passed : Nat
  ending : Except CandidateFault Date

/-- A walk with one more candidate passed before it. -/
def YearWalk.afterOne (walk : YearWalk) : YearWalk :=
  ⟨walk.passed + 1, walk.ending⟩

/-- The walk from the candidate of the given number of years to the first one after `now`. -/
def yearWalk (start now : Date) (years : Nat) : YearWalk :=
  match built : start.buildCandidate years with
  | .error fault => ⟨0, .error fault⟩
  | .ok date =>
      if now < date then
        ⟨0, .ok date⟩
      else
        (yearWalk start now (years + 1)).afterOne
termination_by (10000 - (start.year + years)).toNat
decreasing_by
  have within := Date.year_le_of_buildCandidate built
  omega

/-- The number of years after which the walk can begin that does not look at past years. -/
def yearsToReference (start now : Date) : Nat :=
  (max 1 (now.year - start.year)).toNat

/-- The candidate after so many years is the earliest one after a reference. -/
structure IsFirstCandidate (start now : Date) (years : Nat) : Prop where
  positive : 1 ≤ years
  after : now.civil < start.candidate years
  earliest :
    ∀ {other}, 1 ≤ other → now.civil < start.candidate other →
      start.candidate years ≤ start.candidate other

section Candidates

variable {start now : Date} {years other : Nat}

@[simp] theorem year_candidate
    (start : Date)
    (years : Nat) :
    (start.candidate years).year = start.year + years := by
  unfold Date.candidate
  split <;> rfl

/-- Later candidates come later. -/
theorem candidate_lt
    (before : years < other) :
    start.candidate years < start.candidate other := by
  apply CivilDay.lt_of_year_lt
  simp only [year_candidate]
  omega

/-- A candidate of a later year than the reference comes after it. -/
theorem lt_candidate_of_year_lt
    (later : now.year < start.year + years) :
    now.civil < start.candidate years := by
  apply CivilDay.lt_of_year_lt
  simpa using later

/-- No candidate of a leap day is a 28 February. -/
theorem candidate_of_leapDay
    (leapDay : start.isLeapDay = true)
    (years : Nat) :
    ¬((start.candidate years).month = 2 ∧ (start.candidate years).day = 28) := by
  have last := (Date.isLeapDay_iff.mp leapDay).2
  unfold Date.candidate
  split
  · simp
  · simp [last]

/-- Away from 29 February, adding years keeps the day. -/
theorem addYears?_of_ordinary
    (ordinary : start.isLeapDay = false) :
    start.addYears? years =
      Date.ofYearMonthDay? (start.year + years) start.month start.day := by
  have kept : ¬(start.isLeapDay = true ∧ isLeap (start.year + years) = false) := by
    simp [ordinary]
  have fits := start.day_le_monthLength kept
  simp only [Date.addYears?, Nat.min_eq_left fits]

/-- The day that is asked for is the day of the candidate. -/
theorem candidateDate?_eq_date?
    (start : Date)
    (years : Nat) :
    start.candidateDate? years = (start.candidate years).date? := by
  unfold Date.candidateDate? Date.candidate
  by_cases leapDay : start.isLeapDay = true
  · obtain ⟨february, last⟩ := Date.isLeapDay_iff.mp leapDay
    by_cases leap : isLeap (start.year + years) = true
    · simp [leapDay, leap, CivilDay.date?, february, last]
    · simp [leapDay, leap, CivilDay.date?]
  · have ordinary : start.isLeapDay = false := by simpa using leapDay
    simp [ordinary, CivilDay.date?, addYears?_of_ordinary]

theorem anniversary?_eq_date?
    (start : Date)
    (years : Nat) :
    start.anniversary? (start.year + years) = (start.candidate years).date? := by
  unfold Date.candidate
  by_cases moved : start.isLeapDay = true ∧ isLeap (start.year + years) = false
  · rw [Date.anniversary?_of_common moved.1 moved.2, dif_pos moved]
    rfl
  · rw [Date.anniversary?_of_kept moved, dif_neg moved]
    rfl

/-- A candidate is not a date exactly if its year is past the calendar. -/
theorem date?_candidate_eq_none_iff :
    (start.candidate years).date? = none ↔ 9999 < start.year + years := by
  have startRange := start.year_range
  rw [CivilDay.date?_eq_none_iff, year_candidate]
  omega

/-- A candidate of a year of the calendar is built, any other is refused for its year. -/
theorem buildCandidate_spec
    (start : Date)
    (years : Nat) :
    (∃ date, start.buildCandidate years = .ok date ∧ date.civil = start.candidate years) ∨
      (start.buildCandidate years = .error .offCalendar ∧
        9999 < (start.candidate years).year) := by
  rw [year_candidate, Date.buildCandidate, candidateDate?_eq_date?]
  by_cases past : 9999 < start.year + years
  · apply Or.inr
    exact ⟨if_pos past, past⟩
  · apply Or.inl
    cases found : (start.candidate years).date? with
    | none =>
        exact absurd (date?_candidate_eq_none_iff.mp found) past
    | some date =>
        exact ⟨date, if_neg past, CivilDay.date?_eq_some_iff.mp found⟩

end Candidates

section Walks

variable {start now date : Date} {years last : Nat} {fault : CandidateFault}

theorem yearWalk_of_fault
    (refused : start.buildCandidate years = .error fault) :
    yearWalk start now years = ⟨0, .error fault⟩ := by
  rw [yearWalk]
  split
  · rename_i found
    cases refused.symm.trans found
    rfl
  · rename_i found
    cases refused.symm.trans found

theorem yearWalk_of_after
    (built : start.buildCandidate years = .ok date)
    (after : now < date) :
    yearWalk start now years = ⟨0, .ok date⟩ := by
  rw [yearWalk]
  split
  · rename_i found
    cases built.symm.trans found
  · rename_i found
    cases built.symm.trans found
    exact if_pos after

theorem yearWalk_of_not_after
    (built : start.buildCandidate years = .ok date)
    (notAfter : ¬ now < date) :
    yearWalk start now years = (yearWalk start now (years + 1)).afterOne := by
  rw [yearWalk]
  split
  · rename_i found
    cases built.symm.trans found
  · rename_i found
    cases built.symm.trans found
    exact if_neg notAfter

namespace IsFirstCandidate

/-- The first candidate is the one that takes the fewest years. -/
theorem years_le
    (first : IsFirstCandidate start now last)
    (positive : 1 ≤ years)
    (after : now.civil < start.candidate years) :
    last ≤ years := by
  apply Nat.le_of_not_lt
  intro fewer
  have earlier : start.candidate years < start.candidate last := candidate_lt fewer
  exact Int.not_lt.mpr (first.earliest positive after) earlier

theorem of_not_after
    (positive : 1 ≤ last)
    (after : now.civil < start.candidate last)
    (before : ∀ {years}, 1 ≤ years → years < last → ¬ now.civil < start.candidate years) :
    IsFirstCandidate start now last where
  positive := positive
  after := after
  earliest := by
    intro other otherPositive otherAfter
    have notEarlier : last ≤ other :=
      Nat.le_of_not_lt fun earlier => before otherPositive earlier otherAfter
    rcases Nat.eq_or_lt_of_le notEarlier with rfl | later
    · exact Int.le_refl _
    · exact Int.le_of_lt (candidate_lt later)

/-- A walk from a candidate not after the first one passes all before that and ends there. -/
theorem yearWalk_eq
    (first : IsFirstCandidate start now last)
    {gap : Nat}
    (positive : 1 ≤ years)
    (reached : years + gap = last) :
    yearWalk start now years = ⟨gap, start.buildCandidate last⟩ := by
  induction gap generalizing years with
  | zero =>
      cases reached
      rcases buildCandidate_spec start years with ⟨date, built, isCandidate⟩ | ⟨refused, _⟩
      · have after : now.civil < date.civil := isCandidate ▸ first.after
        rw [yearWalk_of_after built after, Nat.add_zero, built]
      · rw [yearWalk_of_fault refused, Nat.add_zero, refused]
  | succ gap inductionHypothesis =>
      have notAfter : ¬ now.civil < start.candidate years := by
        intro after
        have atMost := first.years_le positive after
        omega
      rcases buildCandidate_spec start years with ⟨date, built, isCandidate⟩ | ⟨_, past⟩
      · have passed : ¬ now < date := by
          rwa [← isCandidate] at notAfter
        rw [yearWalk_of_not_after built passed,
          inductionHypothesis (Nat.le_add_left 1 years) (by omega)]
        rfl
      · rw [year_candidate] at past
        have nowRange := now.year_range
        exact absurd (lt_candidate_of_year_lt (by omega)) notAfter

end IsFirstCandidate

end Walks

section References

variable {start now : Date} {years : Nat}

theorem yearsToReference_pos
    (start now : Date) :
    1 ≤ yearsToReference start now := by
  unfold yearsToReference
  omega

/-- Candidates of years before that of the reference do not come after it. -/
theorem not_after_of_lt_yearsToReference
    (positive : 1 ≤ years)
    (skipped : years < yearsToReference start now) :
    ¬ now.civil < start.candidate years := by
  intro after
  have ordered := CivilDay.year_le_of_lt after
  rw [year_candidate, Date.year_civil] at ordered
  unfold yearsToReference at skipped
  omega

/-- The candidate of the year after that of the reference comes after it. -/
theorem lt_candidate_yearsToReference_succ
    (start now : Date) :
    now.civil < start.candidate (yearsToReference start now + 1) := by
  apply lt_candidate_of_year_lt
  unfold yearsToReference
  omega

/-- The first candidate is in the year of the reference, or the year after it. -/
theorem exists_isFirstCandidate
    (start now : Date) :
    ∃ gap ≤ 1, IsFirstCandidate start now (yearsToReference start now + gap) := by
  by_cases after : now.civil < start.candidate (yearsToReference start now)
  · refine ⟨0, Nat.zero_le 1, ?_⟩
    exact .of_not_after (yearsToReference_pos start now) after
      not_after_of_lt_yearsToReference
  · refine ⟨1, Nat.le_refl 1, ?_⟩
    apply IsFirstCandidate.of_not_after (Nat.le_add_left 1 _)
      (lt_candidate_yearsToReference_succ start now)
    intro years positive atMost
    rcases Nat.lt_succ_iff_lt_or_eq.mp atMost with skipped | rfl
    · exact not_after_of_lt_yearsToReference positive skipped
    · exact after

/-- Advancing a yearly rule builds the first candidate. -/
theorem advanceYearly_eq
    {gap : Nat}
    (short : gap ≤ 1)
    (first : IsFirstCandidate start now (yearsToReference start now + gap)) :
    advanceYearly start now =
      orOffCalendar (start.candidate (yearsToReference start now + gap)).date? := by
  have year :
      max (start.year + 1) now.year = start.year + (yearsToReference start now : Nat) := by
    unfold yearsToReference
    omega
  have following :
      max (start.year + 1) now.year + 1 =
        start.year + (yearsToReference start now + 1 : Nat) := by
    omega
  have positive := yearsToReference_pos start now
  have nowRange := now.year_range
  simp only [advanceYearly, following]
  rw [year, anniversary?_eq_date?, anniversary?_eq_date?]
  cases found : (start.candidate (yearsToReference start now)).date? with
  | none =>
      -- Past the calendar a candidate is after every reference, so it is the first one.
      have past := date?_candidate_eq_none_iff.mp found
      have atMost := first.years_le positive (lt_candidate_of_year_lt (by omega))
      obtain rfl : gap = 0 := by omega
      simp only [Nat.add_zero, found]
      rfl
  | some candidate =>
      have isCandidate := CivilDay.date?_eq_some_iff.mp found
      by_cases after : now < candidate
      · have atMost := first.years_le positive (isCandidate ▸ after)
        obtain rfl : gap = 0 := by omega
        simp only [after, ↓reduceIte, Nat.add_zero, found]
        rfl
      · have notFirst : gap ≠ 0 := by
          rintro rfl
          have firstAfter := first.after
          rw [Nat.add_zero, ← isCandidate] at firstAfter
          exact after firstAfter
        obtain rfl : gap = 1 := by omega
        simp only [after, ↓reduceIte]

/-- Advancing a yearly rule is the walk from its first candidate, wherever that ends. -/
theorem advanceYearly_eq_yearWalk
    (start now : Date) :
    advanceYearly start now =
      (yearWalk start now 1).ending.mapError fun _ => .offCalendar := by
  obtain ⟨gap, short, first⟩ := exists_isFirstCandidate start now
  have fromFirst : 1 + (yearsToReference start now + gap - 1) = yearsToReference start now + gap :=
    Nat.add_sub_cancel' first.positive
  rw [advanceYearly_eq short first, first.yearWalk_eq (Nat.le_refl 1) fromFirst]
  rcases buildCandidate_spec start (yearsToReference start now + gap) with
      ⟨date, built, isCandidate⟩ | ⟨refused, past⟩
  · rw [built, CivilDay.date?_eq_some_iff.mpr isCandidate]
    rfl
  · rw [year_candidate] at past
    rw [refused, date?_candidate_eq_none_iff.mpr past]
    rfl

end References

section Outcomes

variable {start now : Moment} {years : Nat} {date : Date} {error : AdvanceError}

theorem advanceRule_yearly_eq
    (start now : Moment) :
    advanceRule (some .yearly) start now =
      (yearWalk start.date now.date 1).ending.mapError fun _ => .noMatch .offCalendar := by
  rw [advanceRule_some, Rule.advance, advanceYearly_eq_yearWalk]
  cases (yearWalk start.date now.date 1).ending with
  | ok date => rfl
  | error fault => rfl

theorem advanceRule_yearly_eq_buildCandidate
    (first : IsFirstCandidate start.date now.date years) :
    advanceRule (some .yearly) start now =
      (start.date.buildCandidate years).mapError fun _ => .noMatch .offCalendar := by
  have fromFirst : 1 + (years - 1) = years := Nat.add_sub_cancel' first.positive
  rw [advanceRule_yearly_eq, first.yearWalk_eq (Nat.le_refl 1) fromFirst]

/-- A yearly rule advances to the first candidate, if that is a date. -/
theorem advanceRule_yearly_eq_ok_iff
    (first : IsFirstCandidate start.date now.date years) :
    advanceRule (some .yearly) start now = .ok date ↔
      date.civil = start.date.candidate years := by
  rw [advanceRule_yearly_eq_buildCandidate first, mapError_eq_ok_iff]
  rcases buildCandidate_spec start.date years with ⟨found, built, isCandidate⟩ | ⟨refused, past⟩
  · rw [built, ← isCandidate, Except.ok.injEq, eq_comm]
    exact Date.civil_injective.eq_iff.symm
  · rw [refused]
    constructor
    · intro impossible
      cases impossible
    · intro isCandidate
      rw [← isCandidate, Date.year_civil] at past
      exact absurd date.year_range.2 (Int.not_le.mpr past)

/-- A yearly rule does not advance exactly if the first candidate is past the calendar. -/
theorem advanceRule_yearly_eq_error_iff
    (first : IsFirstCandidate start.date now.date years) :
    advanceRule (some .yearly) start now = .error error ↔
      error = .noMatch .offCalendar ∧ 9999 < (start.date.candidate years).year := by
  rw [advanceRule_yearly_eq_buildCandidate first, mapError_eq_error_iff]
  rcases buildCandidate_spec start.date years with ⟨found, built, isCandidate⟩ | ⟨refused, past⟩
  · rw [built, ← isCandidate, Date.year_civil]
    constructor
    · rintro ⟨cause, impossible, _⟩
      cases impossible
    · rintro ⟨_, past⟩
      exact absurd found.year_range.2 (Int.not_le.mpr past)
  · rw [refused]
    constructor
    · rintro ⟨_, _, rfl⟩
      exact ⟨rfl, past⟩
    · rintro ⟨rfl, _⟩
      exact ⟨.offCalendar, rfl, rfl⟩

end Outcomes

/--
Advancing a yearly rule leads to the earliest candidate after the reference, and fails,
for leaving the calendar, exactly if that is past the calendar.  It is the walk that
begins a year after the start.  The walk that begins in the year of the reference ends
at the same place, passes one candidate at most, and leaves out only candidates that
are not after the reference.  Candidates are built unless their year is past the
calendar, and no candidate of a leap day is a 28 February.
-/
theorem advanceRule_yearly_iteration
    (start now : Moment) :
    (∃ years, IsFirstCandidate start.date now.date years ∧
        (∀ date, advanceRule (some .yearly) start now = .ok date ↔
          date.civil = start.date.candidate years) ∧
        (∀ error, advanceRule (some .yearly) start now = .error error ↔
          error = .noMatch .offCalendar ∧ 9999 < (start.date.candidate years).year)) ∧
      (AdvanceError.noMatch .offCalendar).message =
        "next date is out of the supported date range" ∧
      advanceRule (some .yearly) start now =
        (yearWalk start.date now.date 1).ending.mapError (fun _ => .noMatch .offCalendar) ∧
      (yearWalk start.date now.date (yearsToReference start.date now.date)).ending =
        (yearWalk start.date now.date 1).ending ∧
      (yearWalk start.date now.date (yearsToReference start.date now.date)).passed ≤ 1 ∧
      (∀ years, 1 ≤ years → years < yearsToReference start.date now.date →
        ¬ now.date.civil < start.date.candidate years) ∧
      (∀ years,
        (∃ date, start.date.buildCandidate years = .ok date ∧
            date.civil = start.date.candidate years) ∨
          (start.date.buildCandidate years = .error .offCalendar ∧
            9999 < (start.date.candidate years).year)) ∧
      (start.date.isLeapDay = true → ∀ years,
        ¬((start.date.candidate years).month = 2 ∧ (start.date.candidate years).day = 28)) := by
  obtain ⟨gap, short, first⟩ := exists_isFirstCandidate start.date now.date
  have fromFirst := first.yearWalk_eq (Nat.le_refl 1) (Nat.add_sub_cancel' first.positive)
  have fromReference := first.yearWalk_eq (yearsToReference_pos start.date now.date) rfl
  refine ⟨⟨_, first, ?found, ?failed⟩, rfl, advanceRule_yearly_eq start now, ?sameEnding,
    ?passed, ?skipped, buildCandidate_spec start.date, candidate_of_leapDay⟩
  case found =>
    intro date
    exact advanceRule_yearly_eq_ok_iff first
  case failed =>
    intro error
    exact advanceRule_yearly_eq_error_iff first
  case sameEnding =>
    rw [fromFirst, fromReference]
  case passed =>
    rw [fromReference]
    exact short
  case skipped =>
    intro years positive skipped
    exact not_after_of_lt_yearsToReference positive skipped

/--
From 29 February 2024 and past 1 March 2027 the walk of three years begins at a candidate
that is not after the reference, and the candidate of the year before is left out.
-/
theorem advanceRule_yearly_iteration_leapDay :
    advanceRule (some .yearly) (.day leapDay) (.time firstOfMarch 3600) = .ok nextLeapDay ∧
      yearsToReference leapDay firstOfMarch = 3 ∧
      (yearWalk leapDay firstOfMarch 3).ending = .ok nextLeapDay ∧
      (yearWalk leapDay firstOfMarch 3).passed ≤ 1 ∧
      (1 ≤ 2 ∧ 2 < yearsToReference leapDay firstOfMarch ∧
        ¬ firstOfMarch.civil < leapDay.candidate 2) ∧
      (leapDay.isLeapDay = true ∧
        ¬((leapDay.candidate 3).month = 2 ∧ (leapDay.candidate 3).day = 28)) := by
  obtain ⟨_, _, walked, sameEnding, passed, skipped, _, neverMoved⟩ :=
    advanceRule_yearly_iteration (.day leapDay) (.time firstOfMarch 3600)
  have found :
      advanceRule (some .yearly) (.day leapDay) (.time firstOfMarch 3600) =
        .ok nextLeapDay := rfl
  have ending := mapError_eq_ok_iff.mp (walked.symm.trans found)
  exact ⟨found, rfl, sameEnding.trans ending, passed,
    ⟨by decide, by decide, skipped 2 (by decide) (by decide)⟩, rfl, neverMoved rfl 3⟩

end Recurrence
