import Mathlib.Data.Set.Basic
import Recurrence.Proofs.Advance.MonthDayWindow
import Recurrence.Proofs.Advance.WeekdayWindow
import Recurrence.Rule.Grammar

namespace Recurrence

/-!
# Rules of several days

What a rule lists it lists day by day: the rule of all days that two rules list recurs when
either of them does.  So its next date is the earlier one of theirs, where a rule without a
next date does not count, and a rule that is given more days never has to wait longer.  The
same holds of the months of a monthly rule, with one exception: no months at all mean all.
-/

namespace IntegerSet

/-- The numbers that are in one of two sets. -/
def union (first second : IntegerSet) : IntegerSet :=
  ofList (first.toList ++ second.toList)

@[simp] theorem mem_union
    {member : Int}
    {first second : IntegerSet} :
    member ∈ first.union second ↔ member ∈ first ∨ member ∈ second := by
  rw [union, mem_ofList, List.mem_append]
  exact Iff.rfl

theorem union_ne_nil
    {first : IntegerSet}
    (nonempty : first.toList ≠ [])
    (second : IntegerSet) :
    (first.union second).toList ≠ [] := by
  obtain ⟨member, inside⟩ := List.exists_mem_of_ne_nil _ nonempty
  have inUnion : member ∈ first.union second := mem_union.mpr (Or.inl inside)
  exact List.ne_nil_of_mem inUnion

/-- What holds of all numbers of two sets holds of all numbers of their union. -/
theorem forall_mem_union
    {first second : IntegerSet}
    {IsAllowed : Int → Prop}
    (firstAllowed : ∀ member ∈ first.toList, IsAllowed member)
    (secondAllowed : ∀ member ∈ second.toList, IsAllowed member) :
    ∀ member ∈ (first.union second).toList, IsAllowed member := by
  intro member inside
  rcases mem_union.mp inside with inFirst | inSecond
  · exact firstAllowed member inFirst
  · exact secondAllowed member inSecond

end IntegerSet

/-- The weekly rule of the days of two weekly rules. -/
def Weekly.union (first second : Weekly) : Weekly where
  weekdays := first.weekdays.union second.weekdays
  weekdays_ne_nil := IntegerSet.union_ne_nil first.weekdays_ne_nil second.weekdays
  weekdays_range := IntegerSet.forall_mem_union first.weekdays_range second.weekdays_range

namespace Monthly

/-- The monthly rule of the days of two monthly rules, in the months of the first one. -/
def unionDays (first second : Monthly) : Monthly where
  days := first.days.union second.days
  months := first.months
  days_ne_nil := IntegerSet.union_ne_nil first.days_ne_nil second.days
  days_range := IntegerSet.forall_mem_union first.days_range second.days_range
  months_range := first.months_range

/-- The monthly rule of the months of two monthly rules, on the days of the first one. -/
def unionMonths (first second : Monthly) : Monthly where
  days := first.days
  months := first.months.union second.months
  days_ne_nil := first.days_ne_nil
  days_range := first.days_range
  months_range := IntegerSet.forall_mem_union first.months_range second.months_range

/-- The monthly rule that lists all the twelve months. -/
def inTwelveMonths (rule : Monthly) : Monthly where
  days := rule.days
  months := .ofList [1, 2, 3, 4, 5, 6, 7, 8, 9, 10, 11, 12]
  days_ne_nil := rule.days_ne_nil
  days_range := rule.days_range
  months_range := by decide

end Monthly

/-- The earlier one of two dates. -/
def Date.earlier (first second : Date) : Date :=
  if second < first then second else first

/-- The date that a rule advances to.  A rule that finds no match has none. -/
def arrival (rule : Rule) (start now : Moment) : Option Date :=
  (advanceRule (some rule) start now).toOption

section Successors

variable {dates others : Set Date} {now next other : Date}

/-- A successor stays one among more dates, if none of these is after the reference. -/
theorem IsSuccessor.union_of_none
    (successor : IsSuccessor dates now next)
    (noneAfter : ∀ date ∈ others, ¬ now < date) :
    IsSuccessor (dates ∪ others) now next := by
  apply successor.transfer (Or.inl successor.member)
  intro date member after _
  rcases member with inDates | inOthers
  · exact inDates
  · exact absurd after (noneAfter date inOthers)

/-- A successor stays one among more dates, if the successor among these is not earlier. -/
theorem IsSuccessor.union_of_le
    (successor : IsSuccessor dates now next)
    (otherSuccessor : IsSuccessor others now other)
    (notEarlier : next ≤ other) :
    IsSuccessor (dates ∪ others) now next := by
  apply successor.transfer (Or.inl successor.member)
  intro date member after before
  rcases member with inDates | inOthers
  · exact inDates
  · have notBefore : next ≤ date :=
      Int.le_trans notEarlier (otherSuccessor.first inOthers after)
    exact absurd before (Int.not_lt.mpr notBefore)

/-- Among the dates of two sets, the successor is the earlier one of both successors. -/
theorem IsSuccessor.union
    (successor : IsSuccessor dates now next)
    (otherSuccessor : IsSuccessor others now other) :
    IsSuccessor (dates ∪ others) now (next.earlier other) := by
  rw [Date.earlier]
  split
  · rename_i before
    rw [Set.union_comm]
    exact otherSuccessor.union_of_le successor (Int.le_of_lt before)
  · rename_i notBefore
    exact successor.union_of_le otherSuccessor (Int.not_lt.mp notBefore)

variable {outcome otherOutcome bothOutcome : Except NoMatch Date}

/-- A search among the dates of two sets finds the earlier one of what both searches find. -/
theorem FindsSuccessor.toOption_union
    (finds : FindsSuccessor dates now outcome)
    (findsOther : FindsSuccessor others now otherOutcome)
    (findsBoth : FindsSuccessor (dates ∪ others) now bothOutcome) :
    bothOutcome.toOption =
      Option.merge Date.earlier outcome.toOption otherOutcome.toOption := by
  cases outcome with
  | ok next =>
      cases otherOutcome with
      | ok other =>
          rw [findsBoth.eq_ok_iff.mpr (IsSuccessor.union finds findsOther)]
          rfl
      | error otherCause =>
          rw [findsBoth.eq_ok_iff.mpr (IsSuccessor.union_of_none finds findsOther)]
          rfl
  | error cause =>
      cases otherOutcome with
      | ok other =>
          rw [Set.union_comm] at findsBoth
          rw [findsBoth.eq_ok_iff.mpr (IsSuccessor.union_of_none findsOther finds)]
          rfl
      | error otherCause =>
          have noneAfter : ∀ date ∈ dates ∪ others, ¬ now < date := by
            rintro date (inDates | inOthers)
            · exact finds date inDates
            · exact findsOther date inOthers
          obtain ⟨bothCause, failed⟩ := findsBoth.eq_error_iff.mpr noneAfter
          rw [failed]
          rfl

end Successors

section Arrivals

variable {rule first second both : Rule} {start now : Moment} {next : Date}

theorem arrival_eq_some_iff :
    arrival rule start now = some next ↔ advanceRule (some rule) start now = .ok next := by
  rw [arrival]
  cases advanceRule (some rule) start now with
  | ok found => simp [Except.toOption]
  | error failure => simp [Except.toOption]

/-- Only a rule that finds no match does not arrive. -/
theorem arrival_eq_none_iff :
    arrival rule start now = none ↔
      ∃ cause, advanceRule (some rule) start now = .error (.noMatch cause) := by
  rw [arrival, advanceRule_some]
  cases rule.advance start.date now.date with
  | ok found => simp [Except.toOption]
  | error cause => simp [Except.toOption]

theorem arrival_eq_toOption
    (rule : Rule)
    (start now : Moment) :
    arrival rule start now = (rule.advance start.date now.date).toOption := by
  rw [arrival, advanceRule_some]
  cases rule.advance start.date now.date with
  | ok found => rfl
  | error cause => rfl

/-- A rule that recurs when either of two rules does arrives with the earlier one of them. -/
theorem arrival_of_union
    (same :
      both.occurrences start.date =
        first.occurrences start.date ∪ second.occurrences start.date) :
    arrival both start now =
      Option.merge Date.earlier (arrival first start now) (arrival second start now) := by
  have findsBoth := both.findsSuccessor_advance start.date now.date
  rw [same] at findsBoth
  simp only [arrival_eq_toOption]
  exact FindsSuccessor.toOption_union (first.findsSuccessor_advance start.date now.date)
    (second.findsSuccessor_advance start.date now.date) findsBoth

/-- Rules that recur on the same dates arrive on the same date. -/
theorem arrival_of_eq
    (same : first.occurrences start.date = second.occurrences start.date) :
    arrival first start now = arrival second start now := by
  ext next
  rw [arrival_eq_some_iff, arrival_eq_some_iff, advanceRule_eq_ok_iff, advanceRule_eq_ok_iff,
    same]

/-- A rule that recurs whenever another one does advances with it, and not further. -/
theorem exists_advanceRule_of_subset
    (subset : first.occurrences start.date ⊆ second.occurrences start.date)
    (advanced : advanceRule (some first) start now = .ok next) :
    ∃ sooner, advanceRule (some second) start now = .ok sooner ∧ sooner ≤ next := by
  have successor := advanceRule_eq_ok_iff.mp advanced
  exact exists_advanceRule_le (subset successor.member) successor.after

end Arrivals

section Weekdays

theorem Weekly.occurrences_union
    (first second : Weekly)
    (start : Date) :
    (Rule.weekly (first.union second)).occurrences start =
      (Rule.weekly first).occurrences start ∪ (Rule.weekly second).occurrences start := by
  simp only [occurrences_eq_listedDays]
  ext date
  simp only [listedDays, union, IntegerSet.mem_union, Set.mem_ofPred_eq, Set.mem_union,
    and_or_left]

theorem Weekly.occurrences_subset
    {fewer more : Weekly}
    (added : ∀ day ∈ fewer.weekdays, day ∈ more.weekdays)
    (start : Date) :
    (Rule.weekly fewer).occurrences start ⊆ (Rule.weekly more).occurrences start := by
  simp only [occurrences_eq_listedDays]
  rintro date ⟨fromStart, inWindow, listed⟩
  exact ⟨fromStart, inWindow, added _ listed⟩

end Weekdays

namespace Monthly

variable {first second fewer more : Monthly} {date : Date}

theorem listsDay_unionDays_iff :
    (first.unionDays second).ListsDay date ↔ first.ListsDay date ∨ second.ListsDay date := by
  simp only [ListsDay, unionDays, IntegerSet.mem_union, or_and_right]
  tauto

theorem listsDay_of_subset
    (added : ∀ day ∈ fewer.days, day ∈ more.days)
    (listed : fewer.ListsDay date) :
    more.ListsDay date := by
  rcases listed with byNumber | ⟨last, isLast⟩ | ⟨beforeLast, isBeforeLast⟩
  · exact Or.inl (added _ byNumber)
  · exact Or.inr (Or.inl ⟨added _ last, isLast⟩)
  · exact Or.inr (Or.inr ⟨added _ beforeLast, isBeforeLast⟩)

/-- Of rules that name months, one in the months of both recurs where either of them does. -/
theorem allows_unionMonths_iff
    (firstNamed : first.months.toList ≠ [])
    (secondNamed : second.months.toList ≠ [])
    {month : Nat} :
    (first.unionMonths second).Allows month ↔ first.Allows month ∨ second.Allows month := by
  have named := IntegerSet.union_ne_nil firstNamed second.months
  simp only [Allows, unionMonths, named, firstNamed, secondNamed, false_or,
    IntegerSet.mem_union]

/-- All twelve months are the months of every date. -/
theorem allows_inTwelveMonths
    (rule : Monthly)
    (date : Date) :
    rule.inTwelveMonths.Allows date.month := by
  have range := date.month_range
  refine Or.inr (IntegerSet.mem_ofList.mpr ?_)
  simp only [List.mem_cons, List.not_mem_nil, or_false]
  omega

theorem occurrences_unionDays
    (sameMonths : first.months = second.months)
    (start : Date) :
    (Rule.monthly (first.unionDays second)).occurrences start =
      (Rule.monthly first).occurrences start ∪ (Rule.monthly second).occurrences start := by
  have allowsFirst {month : Nat} :
      (first.unionDays second).Allows month ↔ first.Allows month :=
    Iff.rfl
  have allowsSecond {month : Nat} : second.Allows month ↔ first.Allows month := by
    rw [Allows, Allows, sameMonths]
  simp only [occurrences_eq_listedDays]
  ext date
  simp only [listedDays, Set.mem_ofPred_eq, Set.mem_union, allowsFirst, allowsSecond,
    listsDay_unionDays_iff, and_or_left]

theorem occurrences_unionMonths
    (sameDays : first.days = second.days)
    (firstNamed : first.months.toList ≠ [])
    (secondNamed : second.months.toList ≠ [])
    (start : Date) :
    (Rule.monthly (first.unionMonths second)).occurrences start =
      (Rule.monthly first).occurrences start ∪ (Rule.monthly second).occurrences start := by
  have listsFirst {date : Date} :
      (first.unionMonths second).ListsDay date ↔ first.ListsDay date :=
    Iff.rfl
  have listsSecond {date : Date} : second.ListsDay date ↔ first.ListsDay date := by
    rw [ListsDay, ListsDay, sameDays]
  simp only [occurrences_eq_listedDays]
  ext date
  simp only [listedDays, Set.mem_ofPred_eq, Set.mem_union, listsFirst, listsSecond,
    allows_unionMonths_iff firstNamed secondNamed, or_and_right, and_or_left]

/-- A rule without months recurs as if it named all of them. -/
theorem occurrences_inTwelveMonths
    {rule : Monthly}
    (unnamed : rule.months.toList = [])
    (start : Date) :
    (Rule.monthly rule.inTwelveMonths).occurrences start =
      (Rule.monthly rule).occurrences start := by
  have allowed (date : Date) : rule.Allows date.month := Or.inl unnamed
  have sameDays {date : Date} : rule.inTwelveMonths.ListsDay date ↔ rule.ListsDay date :=
    Iff.rfl
  simp only [occurrences_eq_listedDays]
  ext date
  simp only [listedDays, Set.mem_ofPred_eq, allows_inTwelveMonths, allowed, sameDays]

theorem occurrences_subset
    (sameMonths : fewer.months = more.months)
    (added : ∀ day ∈ fewer.days, day ∈ more.days)
    (start : Date) :
    (Rule.monthly fewer).occurrences start ⊆ (Rule.monthly more).occurrences start := by
  simp only [occurrences_eq_listedDays]
  rintro date ⟨afterStart, inWindow, allowed, listed⟩
  rw [Allows, sameMonths] at allowed
  exact ⟨afterStart, inWindow, allowed, listsDay_of_subset added listed⟩

end Monthly

/--
Lists are unions.  The weekly rule of the days of two weekly rules arrives with the earlier
one of them, and so do the monthly rule of the days of two that have the same months, and the
monthly rule of the months of two that have the same days, if both name months; a rule that
names none arrives as if it named all twelve.  A rule that finds no match does not arrive,
which counts as later than all dates.  So more days never make the next date a later one.
-/
theorem arrival_union
    (start now : Moment) :
    (∀ rule,
        (∀ next, arrival rule start now = some next ↔
          advanceRule (some rule) start now = .ok next) ∧
        (arrival rule start now = none ↔
          ∃ cause, advanceRule (some rule) start now = .error (.noMatch cause))) ∧
      (∀ first second : Weekly,
        arrival (.weekly (first.union second)) start now =
          Option.merge Date.earlier
            (arrival (.weekly first) start now) (arrival (.weekly second) start now)) ∧
      (∀ first second : Monthly, first.months = second.months →
        arrival (.monthly (first.unionDays second)) start now =
          Option.merge Date.earlier
            (arrival (.monthly first) start now) (arrival (.monthly second) start now)) ∧
      (∀ first second : Monthly, first.days = second.days →
        first.months.toList ≠ [] → second.months.toList ≠ [] →
        arrival (.monthly (first.unionMonths second)) start now =
          Option.merge Date.earlier
            (arrival (.monthly first) start now) (arrival (.monthly second) start now)) ∧
      (∀ rule : Monthly, rule.months.toList = [] →
        arrival (.monthly rule.inTwelveMonths) start now =
          arrival (.monthly rule) start now) ∧
      (∀ fewer more : Weekly, (∀ day ∈ fewer.weekdays, day ∈ more.weekdays) →
        ∀ next, advanceRule (some (.weekly fewer)) start now = .ok next →
          ∃ sooner, advanceRule (some (.weekly more)) start now = .ok sooner ∧
            sooner ≤ next) ∧
      (∀ fewer more : Monthly, fewer.months = more.months →
        (∀ day ∈ fewer.days, day ∈ more.days) →
        ∀ next, advanceRule (some (.monthly fewer)) start now = .ok next →
          ∃ sooner, advanceRule (some (.monthly more)) start now = .ok sooner ∧
            sooner ≤ next) := by
  refine ⟨fun rule => ⟨fun next => arrival_eq_some_iff, arrival_eq_none_iff⟩, ?weekdays, ?days,
    ?months, ?noMonths, ?moreWeekdays, ?moreDays⟩
  case weekdays =>
    intro first second
    exact arrival_of_union (first.occurrences_union second start.date)
  case days =>
    intro first second sameMonths
    exact arrival_of_union (Monthly.occurrences_unionDays sameMonths start.date)
  case months =>
    intro first second sameDays firstNamed secondNamed
    exact arrival_of_union
      (Monthly.occurrences_unionMonths sameDays firstNamed secondNamed start.date)
  case noMonths =>
    intro rule unnamed
    exact arrival_of_eq (Monthly.occurrences_inTwelveMonths unnamed start.date)
  case moreWeekdays =>
    intro fewer more added next advanced
    exact exists_advanceRule_of_subset (Weekly.occurrences_subset added start.date) advanced
  case moreDays =>
    intro fewer more sameMonths added next advanced
    exact exists_advanceRule_of_subset
      (Monthly.occurrences_subset sameMonths added start.date) advanced

/-- The weekly rule of Mondays. -/
def mondays : Weekly :=
  .ofValues [1] (by decide) (by decide)

/-- The monthly rule of the fifteenth days of all months. -/
def fifteenths : Monthly :=
  .ofValues [15] [] (by decide) (by decide) (by decide)

/-- The monthly rule of the last days of February. -/
def endsOfFebruary : Monthly :=
  .ofValues [-1] [2] (by decide) (by decide) (by decide)

/-- The monthly rule of the last days of December. -/
def endsOfDecember : Monthly :=
  .ofValues [-1] [12] (by decide) (by decide) (by decide)

/-- 20 December 9999, a Monday. -/
def lastMondayButOne : Date :=
  .ofParts 9999 12 20 (by decide)

/-- 28 December 9999, a Tuesday. -/
def lastTuesday : Date :=
  .ofParts 9999 12 28 (by decide)

/--
After the last Monday, the last fifteenth day and the last February of the calendar, rules of
these have no next date.  With Fridays, last days or December beside them they arrive on its
last day.
-/
theorem arrival_union_endOfCalendar :
    (arrival (.weekly mondays) (.day lastTuesday) (.day lastTuesday) = none ∧
        arrival (.weekly (mondays.union fridays)) (.day lastTuesday) (.day lastTuesday) =
          some endOfCalendar) ∧
      (fifteenths.months = lastDays.months ∧
        arrival (.monthly (fifteenths.unionDays lastDays))
            (.day firstOfLastMonth) (.day lastMondayButOne) =
          some endOfCalendar) ∧
      (endsOfFebruary.days = endsOfDecember.days ∧
        endsOfFebruary.months.toList ≠ [] ∧ endsOfDecember.months.toList ≠ [] ∧
        arrival (.monthly (endsOfFebruary.unionMonths endsOfDecember))
            (.day firstOfLastMonth) (.day lastMondayButOne) =
          some endOfCalendar) ∧
      (lastDays.months.toList = [] ∧
        arrival (.monthly lastDays.inTwelveMonths) (.day firstOfLastMonth)
            (.day lastMondayButOne) =
          some endOfCalendar) ∧
      ((∀ day ∈ mondays.weekdays, day ∈ (mondays.union fridays).weekdays) ∧
        ∃ sooner,
          advanceRule (some (.weekly (mondays.union fridays))) (.day firstOfLastMonth)
              (.day lastMondayButOne) =
            .ok sooner ∧ sooner ≤ ⟨9999, 12, 27, by decide, by decide, by decide⟩) ∧
      ((∀ day ∈ fifteenths.days, day ∈ (fifteenths.unionDays lastDays).days) ∧
        ∃ sooner,
          advanceRule (some (.monthly (fifteenths.unionDays lastDays))) (.day firstOfLastMonth)
              (.day firstOfLastMonth) =
            .ok sooner ∧ sooner ≤ ⟨9999, 12, 15, by decide, by decide, by decide⟩) := by
  refine ⟨?weekdays, ?days, ?months, ?noMonths, ?moreWeekdays, ?moreDays⟩
  case weekdays =>
    obtain ⟨_, weekdays, _⟩ := arrival_union (.day lastTuesday) (.day lastTuesday)
    exact ⟨rfl, (weekdays mondays fridays).trans rfl⟩
  case days =>
    have sameMonths : fifteenths.months = lastDays.months := rfl
    obtain ⟨_, _, days, _⟩ := arrival_union (.day firstOfLastMonth) (.day lastMondayButOne)
    exact ⟨sameMonths, (days _ _ sameMonths).trans rfl⟩
  case months =>
    obtain ⟨_, _, _, months, _⟩ := arrival_union (.day firstOfLastMonth) (.day lastMondayButOne)
    have sameDays : endsOfFebruary.days = endsOfDecember.days := rfl
    have februaryNamed : endsOfFebruary.months.toList ≠ [] := by decide
    have decemberNamed : endsOfDecember.months.toList ≠ [] := by decide
    exact ⟨sameDays, februaryNamed, decemberNamed,
      (months _ _ sameDays februaryNamed decemberNamed).trans rfl⟩
  case noMonths =>
    obtain ⟨_, _, _, _, noMonths, _⟩ :=
      arrival_union (.day firstOfLastMonth) (.day lastMondayButOne)
    exact ⟨rfl, (noMonths lastDays rfl).trans rfl⟩
  case moreWeekdays =>
    have added : ∀ day ∈ mondays.weekdays, day ∈ (mondays.union fridays).weekdays := by decide
    obtain ⟨_, _, _, _, _, moreWeekdays, _⟩ :=
      arrival_union (.day firstOfLastMonth) (.day lastMondayButOne)
    exact ⟨added, moreWeekdays _ _ added _ rfl⟩
  case moreDays =>
    have added : ∀ day ∈ fifteenths.days, day ∈ (fifteenths.unionDays lastDays).days := by
      decide
    obtain ⟨_, _, _, _, _, _, moreDays⟩ :=
      arrival_union (.day firstOfLastMonth) (.day firstOfLastMonth)
    have sameMonths : fifteenths.months = (fifteenths.unionDays lastDays).months := rfl
    exact ⟨added, moreDays _ _ sameMonths added _ rfl⟩

end Recurrence
