import Recurrence.Calendar.Date

namespace Recurrence

/-!
# Dates and their numbers

A date is found again from its number, every number from 1 to
`Date.lastNumber` belongs to one date, and the day after a date has the next
number.  Whatever counts or compares days can therefore be settled on integers.
-/

/-- A month begins where the month before it ends. -/
theorem daysBeforeMonth_succ
    (year : Int)
    {month : Nat}
    (positive : 1 ≤ month) :
    daysBeforeMonth year (month + 1) =
      daysBeforeMonth year month + monthLength year month := by
  obtain ⟨previous, rfl⟩ := Nat.exists_eq_add_of_le' positive
  rfl

/-- Later months of a year begin later. -/
theorem daysBeforeMonth_add_le
    (year : Int)
    {month : Nat}
    (positive : 1 ≤ month)
    (gap : Nat) :
    daysBeforeMonth year month + monthLength year month ≤
      daysBeforeMonth year (month + 1 + gap) := by
  induction gap with
  | zero =>
      exact Nat.le_of_eq (daysBeforeMonth_succ year positive).symm
  | succ gap inductionHypothesis =>
      rw [← Nat.add_assoc, daysBeforeMonth_succ year (by omega)]
      omega

/-- A month ends before a later month of the same year begins. -/
theorem daysBeforeMonth_le
    (year : Int)
    {earlier later : Nat}
    (positive : 1 ≤ earlier)
    (before : earlier < later) :
    daysBeforeMonth year earlier + monthLength year earlier ≤
      daysBeforeMonth year later := by
  obtain ⟨gap, rfl⟩ := Nat.exists_eq_add_of_le before
  exact daysBeforeMonth_add_le year positive gap

/-- A year ends where its thirteenth month would begin. -/
theorem daysBeforeYear_add_months
    (year : Int) :
    daysBeforeYear (year + 1) =
      daysBeforeYear year + (daysBeforeMonth year 13 : Nat) := by
  rw [daysBeforeYear_succ, daysBeforeMonth_thirteen]
  split <;> rfl

/-- A year ends before a later year begins. -/
theorem daysBeforeYear_le
    {earlier later : Int}
    (before : earlier < later) :
    daysBeforeYear (earlier + 1) ≤ daysBeforeYear later := by
  unfold daysBeforeYear
  omega

namespace Date

/-- Every number falls within the year that is found for it. -/
theorem yearOfNumber_bounds
    (number : Int) :
    daysBeforeYear (yearOfNumber number) < number ∧
      number ≤ daysBeforeYear (yearOfNumber number + 1) := by
  unfold yearOfNumber
  simp only
  split
  · simp only [daysBeforeYear] at *
    omega
  · split <;>
      · simp only [daysBeforeYear] at *
        omega

/-- The year of a number is the only one that it falls within. -/
theorem yearOfNumber_eq
    {number year : Int}
    (after : daysBeforeYear year < number)
    (within : number ≤ daysBeforeYear (year + 1)) :
    yearOfNumber number = year := by
  obtain ⟨foundAfter, foundWithin⟩ := yearOfNumber_bounds number
  rcases Int.lt_trichotomy (yearOfNumber number) year with earlier | same | later
  · have := daysBeforeYear_le earlier
    omega
  · exact same
  · have := daysBeforeYear_le later
    omega

/-- The month of a day is the number of months that begin before it. -/
theorem monthOfDay_eq
    {year : Int}
    {month dayOfYear : Nat}
    (range : 1 ≤ month ∧ month ≤ 12)
    (after : daysBeforeMonth year month < dayOfYear)
    (within : dayOfYear ≤ daysBeforeMonth year month + monthLength year month) :
    monthOfDay year dayOfYear = month := by
  have begun :
      ∀ other, 1 ≤ other → other ≤ 12 →
        (daysBeforeMonth year other < dayOfYear ↔ other ≤ month) := by
    intro other positive _
    constructor
    · intro otherAfter
      refine Nat.le_of_not_lt fun later => ?_
      have := daysBeforeMonth_le year range.1 later
      omega
    · intro notLater
      rcases Nat.lt_or_eq_of_le notLater with earlier | rfl
      · have := daysBeforeMonth_le year positive earlier
        omega
      · exact after
  have counted :
      monthOfDay year dayOfYear =
        (List.range' 1 12).countP fun other => other ≤ month := by
    refine List.countP_congr fun other member => ?_
    have bounds := List.mem_range'_1.mp member
    simpa using begun other bounds.1 (by omega)
  have closed :
      ∀ bound < 13, 1 ≤ bound →
        (List.range' 1 12).countP (fun other => other ≤ bound) = bound := by
    decide
  exact counted.trans (closed month (by omega) range.1)

/-- A date falls within its year. -/
theorem dayOfYear_bounds
    (date : Date) :
    1 ≤ date.dayOfYear ∧ date.dayOfYear ≤ daysBeforeMonth date.year 13 := by
  obtain ⟨positive, atMost⟩ := date.day_range
  have inYear :=
    daysBeforeMonth_le date.year date.month_range.1
      (show date.month < 13 from Nat.lt_succ_of_le date.month_range.2)
  unfold dayOfYear
  omega

/-- The number of a date counts the years before its own and the days of that. -/
theorem number_eq_dayOfYear
    (date : Date) :
    date.number = daysBeforeYear date.year + date.dayOfYear := by
  unfold number dayOfYear
  omega

/-- The year of a date is the year of its number. -/
@[simp] theorem yearOfNumber_number
    (date : Date) :
    yearOfNumber date.number = date.year := by
  obtain ⟨positive, atMost⟩ := date.dayOfYear_bounds
  rw [number_eq_dayOfYear]
  apply yearOfNumber_eq
  · omega
  · rw [daysBeforeYear_add_months]
    omega

/-- A date is found from its number. -/
@[simp] theorem ofNumber?_number
    (date : Date) :
    ofNumber? date.number = some date := by
  have dayNumber :
      (date.number - daysBeforeYear date.year).toNat = date.dayOfYear := by
    rw [number_eq_dayOfYear]
    omega
  have positive := date.day_range.1
  have atMost := date.day_range.2
  have month :
      monthOfDay date.year date.dayOfYear = date.month := by
    apply monthOfDay_eq date.month_range <;>
      · unfold dayOfYear
        omega
  have day :
      date.dayOfYear - daysBeforeMonth date.year date.month = date.day := by
    unfold dayOfYear
    omega
  simp only [ofNumber?, yearOfNumber_number, dayNumber, month, day,
    ofYearMonthDay?_self]

/-- Different dates have different numbers. -/
theorem number_injective
    {first second : Date}
    (same : first.number = second.number) :
    first = second := by
  have found := congrArg ofNumber? same
  rw [ofNumber?_number, ofNumber?_number] at found
  exact Option.some.inj found

/-- The month of a day holds it. -/
theorem monthOfDay_bounds
    {year : Int}
    {dayOfYear : Nat}
    (positive : 1 ≤ dayOfYear)
    (within : dayOfYear ≤ daysBeforeMonth year 13) :
    (1 ≤ monthOfDay year dayOfYear ∧ monthOfDay year dayOfYear ≤ 12) ∧
      daysBeforeMonth year (monthOfDay year dayOfYear) < dayOfYear ∧
      dayOfYear ≤
        daysBeforeMonth year (monthOfDay year dayOfYear) +
          monthLength year (monthOfDay year dayOfYear) := by
  have found :
      ∀ count, 1 ≤ count → dayOfYear ≤ daysBeforeMonth year (count + 1) →
        ∃ month, (1 ≤ month ∧ month ≤ count) ∧
          daysBeforeMonth year month < dayOfYear ∧
          dayOfYear ≤ daysBeforeMonth year month + monthLength year month := by
    intro count
    induction count with
    | zero => intro impossible; omega
    | succ count inductionHypothesis =>
        intro _ before
        by_cases earlier : dayOfYear ≤ daysBeforeMonth year (count + 1)
        · by_cases first : count = 0
          · subst first
            exact absurd earlier (by simp only [daysBeforeMonth]; omega)
          · obtain ⟨month, range, bounds⟩ :=
              inductionHypothesis (by omega) earlier
            exact ⟨month, ⟨range.1, by omega⟩, bounds⟩
        · rw [daysBeforeMonth_succ year (by omega)] at before
          exact ⟨count + 1, by omega, by omega, before⟩
  obtain ⟨month, range, after, before⟩ := found 12 (by decide) within
  rw [monthOfDay_eq range after before]
  exact ⟨range, after, before⟩

/-- A number belongs to a date exactly from 1 to the last number. -/
theorem exists_number_eq_iff
    {number : Int} :
    (∃ date : Date, date.number = number) ↔ 1 ≤ number ∧ number ≤ lastNumber := by
  constructor
  · rintro ⟨date, rfl⟩
    obtain ⟨after, within⟩ := yearOfNumber_bounds date.number
    rw [yearOfNumber_number] at after within
    obtain ⟨yearPositive, yearAtMost⟩ := date.year_range
    unfold daysBeforeYear at after within
    unfold lastNumber
    omega
  · rintro ⟨positive, atMost⟩
    obtain ⟨after, within⟩ := yearOfNumber_bounds number
    have yearRange : 1 ≤ yearOfNumber number ∧ yearOfNumber number ≤ 9999 := by
      unfold daysBeforeYear at after within
      unfold lastNumber at atMost
      omega
    rw [daysBeforeYear_add_months] at within
    have dayPositive :
        1 ≤ (number - daysBeforeYear (yearOfNumber number)).toNat := by
      omega
    have dayWithin :
        (number - daysBeforeYear (yearOfNumber number)).toNat ≤
          daysBeforeMonth (yearOfNumber number) 13 := by
      omega
    obtain ⟨monthRange, monthAfter, monthWithin⟩ :=
      monthOfDay_bounds dayPositive dayWithin
    refine
      ⟨⟨yearOfNumber number, _, _, yearRange, monthRange,
        Nat.sub_pos_of_lt monthAfter, by omega⟩, ?_⟩
    unfold Date.number
    simp only
    omega

/-- The date of a number has that number. -/
theorem ofNumber?_eq_some_iff
    {number : Int}
    {date : Date} :
    ofNumber? number = some date ↔ date.number = number := by
  constructor
  · intro found
    obtain ⟨sameYear, sameMonth, sameDay⟩ := ofYearMonthDay?_eq_some_iff.mp found
    have dayPositive := date.day_range.1
    have yearAfter := (yearOfNumber_bounds number).1
    rw [← sameYear] at sameMonth sameDay yearAfter
    rw [← sameMonth] at sameDay
    unfold Date.number
    omega
  · rintro rfl
    exact ofNumber?_number date

/-- A number without a date is not on the calendar. -/
theorem ofNumber?_eq_none_iff
    {number : Int} :
    ofNumber? number = none ↔ ¬(1 ≤ number ∧ number ≤ lastNumber) := by
  rw [← exists_number_eq_iff]
  constructor
  · rintro missing ⟨date, numbered⟩
    rw [ofNumber?_eq_some_iff.mpr numbered] at missing
    cases missing
  · intro without
    cases found : ofNumber? number with
    | none => rfl
    | some date => exact absurd ⟨date, ofNumber?_eq_some_iff.mp found⟩ without

/-- The thirty-one days of December end the year. -/
theorem daysBeforeYear_of_december
    (year : Int) :
    daysBeforeYear (year + 1) =
      daysBeforeYear year + (daysBeforeMonth year 12 : Nat) + 31 := by
  rw [daysBeforeYear_add_months, daysBeforeMonth_succ year (by decide)]
  simp only [monthLength]
  omega

/-- A last day of a month that is not before December is 31 December. -/
private theorem day_of_december
    {date : Date}
    (lastOfMonth : ¬ date.day < monthLength date.year date.month)
    (lastOfYear : ¬ date.month < 12) :
    date.month = 12 ∧ date.day = 31 := by
  have december : date.month = 12 := by
    have := date.month_range.2
    omega
  have atMost := date.day_range.2
  rw [december] at lastOfMonth atMost
  simp only [monthLength] at lastOfMonth atMost
  omega

/-- The day after a date has the next number. -/
theorem number_of_next?
    {date following : Date}
    (found : date.next? = some following) :
    following.number = date.number + 1 := by
  unfold next? at found
  split at found
  · obtain ⟨sameYear, sameMonth, sameDay⟩ := ofYearMonthDay?_eq_some_iff.mp found
    simp only [number, sameYear, sameMonth, sameDay]
    omega
  · rename_i lastOfMonth
    split at found
    · obtain ⟨sameYear, sameMonth, sameDay⟩ := ofYearMonthDay?_eq_some_iff.mp found
      have atMost := date.day_range.2
      simp only [number, sameYear, sameMonth, sameDay,
        daysBeforeMonth_succ date.year date.month_range.1]
      omega
    · rename_i lastOfYear
      obtain ⟨sameYear, sameMonth, sameDay⟩ := ofYearMonthDay?_eq_some_iff.mp found
      obtain ⟨december, lastDay⟩ := day_of_december lastOfMonth lastOfYear
      simp only [number, sameYear, sameMonth, sameDay, december, lastDay,
        daysBeforeYear_of_december]
      simp only [daysBeforeMonth]
      omega

/-- Only the last day of the calendar has no day after it. -/
theorem number_of_next?_eq_none
    {date : Date}
    (missing : date.next? = none) :
    date.number = lastNumber := by
  have invalid :
      ∀ {year : Int} {month day : Nat},
        ofYearMonthDay? year month day = none →
          ¬((1 ≤ year ∧ year ≤ 9999) ∧ (1 ≤ month ∧ month ≤ 12) ∧
            (1 ≤ day ∧ day ≤ monthLength year month)) := by
    intro year month day none valid
    rw [ofYearMonthDay?, dif_pos valid] at none
    cases none
  obtain ⟨monthPositive, _⟩ := date.month_range
  unfold next? at missing
  split at missing
  · exact absurd ⟨date.year_range, date.month_range, by omega, by omega⟩ (invalid missing)
  · rename_i lastOfMonth
    split at missing
    · have := le_monthLength date.year (date.month + 1)
      exact absurd ⟨date.year_range, ⟨by omega, by omega⟩, by omega, by omega⟩
        (invalid missing)
    · rename_i lastOfYear
      obtain ⟨december, lastDay⟩ := day_of_december lastOfMonth lastOfYear
      have lastYear : date.year = 9999 := by
        have range := date.year_range
        have := le_monthLength (date.year + 1) 1
        refine Classical.byContradiction fun earlier => ?_
        exact absurd ⟨⟨by omega, by omega⟩, ⟨by decide, by decide⟩, by decide, by omega⟩
          (invalid missing)
      simp only [number, december, lastDay, lastYear]
      rfl

/-- The day after a date is the date of the next number. -/
theorem next?_eq_ofNumber?
    (date : Date) :
    date.next? = ofNumber? (date.number + 1) := by
  cases next : date.next? with
  | some following =>
      exact (ofNumber?_eq_some_iff.mpr (number_of_next? next)).symm
  | none =>
      cases found : ofNumber? (date.number + 1) with
      | none => rfl
      | some following =>
          have last := number_of_next?_eq_none next
          have same := ofNumber?_eq_some_iff.mp found
          have atMost := (exists_number_eq_iff.mp ⟨following, rfl⟩).2
          omega

/-- The days that follow a date consecutively are those with the next numbers. -/
theorem mem_daysFrom_iff
    {date day : Date}
    {count : Nat} :
    day ∈ date.daysFrom count ↔
      date.number ≤ day.number ∧ day.number < date.number + count := by
  induction count generalizing date with
  | zero =>
      simp only [daysFrom, List.not_mem_nil, false_iff]
      omega
  | succ count inductionHypothesis =>
      simp only [daysFrom, List.mem_cons]
      cases next : date.next? with
      | some following =>
          have numbered := number_of_next? next
          simp only [inductionHypothesis]
          constructor
          · rintro (rfl | later) <;> omega
          · intro within
            by_cases first : day.number = date.number
            · exact .inl (number_injective first)
            · exact .inr (by omega)
      | none =>
          have last := number_of_next?_eq_none next
          have atMost := (exists_number_eq_iff.mp ⟨day, rfl⟩).2
          simp only [List.not_mem_nil, or_false]
          constructor
          · rintro rfl
            omega
          · intro within
            exact number_injective (by omega)

end Date

end Recurrence
