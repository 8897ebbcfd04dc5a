import Mathlib.Data.Int.Interval
import Mathlib.Data.Set.Card
import Recurrence.Proofs.Advance.MonthDayWindow
import Recurrence.Proofs.Advance.Search
import Recurrence.Proofs.Advance.WeekdayWindow
import Recurrence.Proofs.Advance.YearWalk
import Recurrence.Proofs.Scheduler.DateTexts

namespace Recurrence

/-!
# Listing the coming dates

A listing asks for the next date again and again, each time from the date that
came before.  What it has listed so far are always the earliest occurrences after
the reference, and what is left are the occurrences after the last one listed.  So
it skips nothing and repeats nothing, and a longer listing begins with a shorter
one.
-/

/--
A task begun on `start` recurs on a date: a whole number of intervals later, on the candidate of
a later year, or on a day that the rule lists in its window.
-/
inductive Rule.RecursOn (start date : Date) : Rule → Prop where
  | daily {rule : Daily} {steps : Nat}
      (positive : 1 ≤ steps)
      (isMultiple : date.number = start.number + steps * rule.interval) :
      RecursOn start date (.daily rule)
  | yearly {years : Nat}
      (positive : 1 ≤ years)
      (isCandidate : date.civil = start.candidate years) :
      RecursOn start date .yearly
  | weekly {rule : Weekly}
      (listed : date ∈ rule.listedDays start) :
      RecursOn start date (.weekly rule)
  | monthly {rule : Monthly}
      (listed : date ∈ rule.listedDays start) :
      RecursOn start date (.monthly rule)

/-- The dates after `now` on which a task begun on `start` recurs. -/
def Rule.comingDates (rule : Rule) (start now : Date) : Set Date :=
  {date | rule.RecursOn start date ∧ now < date}

/-- Some of the dates of a set, the earliest ones, in ascending order. -/
structure LeadingDates (dates : Set Date) (listed : List Date) : Prop where
  ascending : listed.Pairwise (· < ·)
  members : ∀ date ∈ listed, date ∈ dates
  noneSkipped : ∀ date ∈ dates, date ∉ listed → ∀ earlier ∈ listed, earlier < date

/-- Every set of dates is finite. -/
theorem finite_dates
    (dates : Set Date) :
    dates.Finite := by
  have numbered :
      Date.number '' dates ⊆ Set.Icc 1 Date.lastNumber := by
    rintro number ⟨date, _, rfl⟩
    exact Date.exists_number_eq_iff.mp ⟨date, rfl⟩
  refine Set.Finite.of_finite_image ((Set.finite_Icc _ _).subset numbered) ?_
  intro first _ second _ same
  exact Date.number_injective same

section ComingDates

variable {rule : Rule} {start now next : Date}

/-- The candidates of a yearly rule are the anniversaries of its start. -/
theorem mem_occurrences_yearly_iff
    {date : Date} :
    date ∈ Rule.yearly.occurrences start ↔
      ∃ years : Nat, 1 ≤ years ∧ date.civil = start.candidate years := by
  constructor
  · rintro ⟨laterYear, isAnniversary⟩
    obtain ⟨years, sameYear⟩ := Int.eq_ofNat_of_zero_le (Int.sub_nonneg_of_le laterYear.le)
    have inYear : date.year = start.year + years := by omega
    rw [inYear, anniversary?_eq_date?, CivilDay.date?_eq_some_iff] at isAnniversary
    exact ⟨years, by omega, isAnniversary⟩
  · rintro ⟨years, positive, isCandidate⟩
    have inYear : date.year = start.year + years := by
      rw [← Date.year_civil, isCandidate, year_candidate]
    refine ⟨by omega, ?_⟩
    rw [inYear, anniversary?_eq_date?, CivilDay.date?_eq_some_iff]
    exact isCandidate

/-- What a search looks for are the days on which the task recurs. -/
theorem mem_occurrences_iff
    {date : Date} :
    date ∈ rule.occurrences start ↔ rule.RecursOn start date := by
  cases rule with
  | daily rule =>
      constructor
      · rintro ⟨_, positive, isMultiple⟩
        exact .daily positive isMultiple
      · intro recurs
        cases recurs with
        | daily positive isMultiple => exact ⟨_, positive, isMultiple⟩
  | yearly =>
      rw [mem_occurrences_yearly_iff]
      constructor
      · rintro ⟨_, positive, isCandidate⟩
        exact .yearly positive isCandidate
      · intro recurs
        cases recurs with
        | yearly positive isCandidate => exact ⟨_, positive, isCandidate⟩
  | weekly rule =>
      rw [rule.occurrences_eq_listedDays]
      constructor
      · exact .weekly
      · intro recurs
        cases recurs with
        | weekly listed => exact listed
  | monthly rule =>
      rw [rule.occurrences_eq_listedDays]
      constructor
      · exact .monthly
      · intro recurs
        cases recurs with
        | monthly listed => exact listed

theorem mem_comingDates_iff
    {date : Date} :
    date ∈ rule.comingDates start now ↔ date ∈ rule.occurrences start ∧ now < date := by
  rw [mem_occurrences_iff]
  rfl

/-- A search fails exactly if no date is coming. -/
theorem advance_eq_error_iff_comingDates :
    (∃ cause, rule.advance start now = .error cause) ↔
      rule.comingDates start now = ∅ := by
  rw [(rule.findsSuccessor_advance start now).eq_error_iff, Set.eq_empty_iff_forall_notMem]
  simp only [mem_comingDates_iff]
  constructor
  · rintro noneAfter date ⟨member, after⟩
    exact noneAfter date member after
  · intro empty date member after
    exact empty date ⟨member, after⟩

/-- The date found is coming, and with it come exactly the dates after it. -/
theorem comingDates_eq_insert
    (found : rule.advance start now = .ok next) :
    rule.comingDates start now = insert next (rule.comingDates start next) := by
  have successor := (rule.findsSuccessor_advance start now).eq_ok_iff.mp found
  ext date
  rw [Set.mem_insert_iff, mem_comingDates_iff, mem_comingDates_iff]
  constructor
  · rintro ⟨member, after⟩
    by_cases isNext : date = next
    · exact Or.inl isNext
    · have notBefore := successor.first member after
      refine Or.inr ⟨member, ?_⟩
      have differs : date.number ≠ next.number :=
        fun same => isNext (Date.number_injective same)
      rw [Date.le_iff] at notBefore
      rw [Date.lt_iff]
      omega
  · rintro (isNext | ⟨member, afterNext⟩)
    · rw [isNext]
      exact ⟨successor.member, successor.after⟩
    · exact ⟨member, Int.lt_trans successor.after afterNext⟩

theorem not_mem_comingDates_self
    (rule : Rule)
    (start next : Date) :
    next ∉ rule.comingDates start next := by
  rintro ⟨_, after⟩
  exact Int.lt_irrefl next.number after

end ComingDates

namespace Scheduler

section OccurrencesAfter

variable (rule : Rule) (start : Date)

/-- What is listed after a reference are the earliest coming dates. -/
theorem leadingDates_occurrencesAfter
    (count : Nat)
    (now : Date) :
    LeadingDates (rule.comingDates start now) (occurrencesAfter rule start count now) := by
  -- The reference of every further step is the date that was listed last.
  induction count generalizing now with
  | zero =>
      exact ⟨List.Pairwise.nil, by simp [occurrencesAfter], by simp [occurrencesAfter]⟩
  | succ count inductionHypothesis =>
      rw [occurrencesAfter]
      cases found : rule.advance start now with
      | error cause =>
          exact ⟨List.Pairwise.nil, by simp, by simp⟩
      | ok next =>
          have rest := inductionHypothesis next
          rw [comingDates_eq_insert found]
          refine ⟨List.pairwise_cons.mpr ⟨?_, rest.ascending⟩, ?_, ?_⟩
          · intro date listed
            exact (rest.members date listed).2
          · intro date listed
            rcases List.mem_cons.mp listed with isNext | inRest
            · exact Or.inl isNext
            · exact Or.inr (rest.members date inRest)
          · intro date coming notListed earlier listed
            rw [List.mem_cons, not_or] at notListed
            have afterNext := Or.resolve_left coming notListed.1
            rcases List.mem_cons.mp listed with isNext | inRest
            · rw [isNext]
              exact afterNext.2
            · exact rest.noneSkipped date afterNext notListed.2 earlier inRest

/-- As many dates are listed as were asked for, unless fewer are coming. -/
theorem length_occurrencesAfter
    (count : Nat)
    (now : Date) :
    (occurrencesAfter rule start count now).length =
      min count (rule.comingDates start now).ncard := by
  induction count generalizing now with
  | zero => simp [occurrencesAfter]
  | succ count inductionHypothesis =>
      rw [occurrencesAfter]
      cases found : rule.advance start now with
      | error cause =>
          have empty := advance_eq_error_iff_comingDates.mp ⟨cause, found⟩
          simp [empty]
      | ok next =>
          rw [comingDates_eq_insert found,
            Set.ncard_insert_of_notMem (not_mem_comingDates_self rule start next)
              (finite_dates _),
            List.length_cons, inductionHypothesis next]
          omega

/-- A longer listing begins with a shorter one. -/
theorem occurrencesAfter_isPrefix
    {few many : Nat}
    (fewer : few ≤ many)
    (now : Date) :
    occurrencesAfter rule start few now <+: occurrencesAfter rule start many now := by
  induction few generalizing many now with
  | zero => exact List.nil_prefix
  | succ few inductionHypothesis =>
      obtain ⟨others, rfl⟩ := Nat.exists_eq_add_of_le' (Nat.le_trans (Nat.succ_pos few) fewer)
      rw [occurrencesAfter, occurrencesAfter]
      cases rule.advance start now with
      | error cause => exact List.prefix_refl []
      | ok next =>
          have rest := inductionHypothesis (Nat.le_of_succ_le_succ fewer) next
          exact List.prefix_cons_inj next |>.mpr rest

end OccurrencesAfter

section Requests

variable {scheduler : Scheduler} {now : Reference} {date rule : Option String}
variable {request : Request} {cause : NoMatch} {next : Date} {count : Int}

/-- A request is read exactly if its date, its reference and its rule are. -/
theorem readRequest_eq_ok_iff :
    scheduler.readRequest now date rule = .ok request ↔
      scheduler.readDate date = .ok request.start ∧
        scheduler.readReference now = .ok request.now ∧
          Rule.parse scheduler.strict (rule.getD "").toList = .ok request.rule := by
  rw [readRequest]
  split
  · rename_i missing
    rw [missing]
    constructor
    · intro read
      cases read
    · rintro ⟨_, _, parsed⟩
      cases parsed
  · simp only [bind_eq_ok_iff, mapError_eq_ok_iff, pure, Except.pure, Except.ok.injEq]
    constructor
    · rintro ⟨start, startRead, reference, nowRead, parsed, ruleRead, rfl⟩
      exact ⟨startRead, nowRead, ruleRead⟩
    · rintro ⟨startRead, nowRead, ruleRead⟩
      exact ⟨request.start, startRead, request.now, nowRead, request.rule, ruleRead, rfl⟩

/-- A first date and those that a listing goes on to are at most 23 together. -/
theorem capped_succ
    (positive : 1 ≤ count) :
    (min count maxUpcoming).toNat - 1 + 1 = min count.toNat 23 := by
  unfold maxUpcoming
  omega

theorem listing_of_failed
    (requested : scheduler.readRequest now date rule = .ok request)
    (failed : request.rule.advance request.start request.now = .error cause) :
    scheduler.listing now date rule count = .error (RequestError.ofNoMatch cause) := by
  simp only [listing, requested, failed, mapError_error, bind, Except.bind]

theorem listing_of_found
    (requested : scheduler.readRequest now date rule = .ok request)
    (found : request.rule.advance request.start request.now = .ok next) :
    scheduler.listing now date rule count =
      .ok ((next :: occurrencesAfter request.rule request.start
        ((min count maxUpcoming).toNat - 1) next).map scheduler.writeDate) := by
  simp only [listing, requested, found, mapError_ok, bind, Except.bind, pure, Except.pure]

end Requests

section Valid

variable {scheduler : Scheduler} {now : Reference} {dateText ruleText : String}
variable {start reference : Date} {rule : Rule}

/-- A request whose texts can all be read is read. -/
theorem readRequest_of_valid
    {dateText : Option String}
    (startRead : scheduler.readDate dateText = .ok start)
    (nowRead : scheduler.readReference now = .ok reference)
    (ruleRead : Rule.parse scheduler.strict ruleText.toList = .ok rule) :
    scheduler.readRequest now dateText (some ruleText) = .ok ⟨rule, start, reference⟩ :=
  readRequest_eq_ok_iff.mpr ⟨startRead, nowRead, ruleRead⟩

/-- A listing whose first search succeeds lists the dates of one search after another. -/
theorem upcoming_of_ok
    {count : Int}
    {first : Date}
    (startRead : scheduler.readDate (some dateText) = .ok start)
    (nowRead : scheduler.readReference now = .ok reference)
    (ruleRead : Rule.parse scheduler.strict ruleText.toList = .ok rule)
    (positive : 1 ≤ count)
    (found : rule.advance start reference = .ok first) :
    scheduler.upcoming now (some dateText) (some ruleText) count =
      .ok ((occurrencesAfter rule start (min count.toNat 23) reference).map
        scheduler.writeDate) := by
  have requested := readRequest_of_valid startRead nowRead ruleRead
  rw [upcoming, if_neg (Int.not_lt.mpr positive), listing_of_found requested found,
    ← capped_succ positive, occurrencesAfter, found, mapError_ok]

/-- A listing whose first search fails is that failure. -/
theorem upcoming_of_error
    {count : Int}
    {cause : NoMatch}
    (startRead : scheduler.readDate (some dateText) = .ok start)
    (nowRead : scheduler.readReference now = .ok reference)
    (ruleRead : Rule.parse scheduler.strict ruleText.toList = .ok rule)
    (positive : 1 ≤ count)
    (failed : rule.advance start reference = .error cause) :
    scheduler.upcoming now (some dateText) (some ruleText) count =
      .error (.request (RequestError.ofNoMatch cause)) := by
  have requested := readRequest_of_valid startRead nowRead ruleRead
  rw [upcoming, if_neg (Int.not_lt.mpr positive), listing_of_failed requested failed,
    mapError_error]

end Valid

section DefaultFormat

variable {strict : Bool}

/-- A reference is a moment of a day, or a text of eight digits that name a day. -/
inductive RefersToDay : Reference → Date → Prop where
  | moment (moment : Moment) :
      RefersToDay (.moment moment) moment.date
  | named {content : String} {day : Date}
      (named : CompactlyNames content.toList day) :
      RefersToDay (.text content) day

theorem readReference_eq_ok_iff
    {now : Reference}
    {day : Date} :
    (withDefaultFormat strict).readReference now = .ok day ↔ RefersToDay now day := by
  cases now with
  | moment moment =>
      rw [readReference, Except.ok.injEq]
      constructor
      · rintro rfl
        exact .moment moment
      · rintro ⟨⟩
        rfl
  | text content =>
      rw [readReference, readDate_text_eq_ok_iff]
      constructor
      · exact .named
      · intro refers
        cases refers with
        | named named => exact named
  | unreadable => exact iff_of_false nofun nofun

/-- The texts of dates are what names them. -/
theorem compactlyName_writeDate
    (dates : List Date) :
    List.Forall₂ (fun text date => CompactlyNames text.toList date)
      (dates.map (withDefaultFormat strict).writeDate) dates := by
  rw [List.forall₂_map_left_iff, List.forall₂_same]
  intro date _
  rw [toList_writeDate]
  exact date.compactlyNames_compact

end DefaultFormat

/--
In the default format, for texts that can be read, a listing fails for lack of a match exactly
if no date is coming.  Otherwise it gives the texts of the earliest coming dates in ascending
order, without a gap: as many as were asked for, but at most 23, and no more than there
are.  A listing of fewer dates is the beginning of a listing of more.
-/
theorem upcoming_leadingDates
    (strict : Bool)
    (now : Reference)
    (dateText ruleText : String)
    (count : Int)
    (start reference : Date)
    (rule : Rule)
    (startNamed : CompactlyNames dateText.toList start)
    (refers : RefersToDay now reference)
    (ruleRead : Rule.parse strict ruleText.toList = .ok rule)
    (positive : 1 ≤ count) :
    ((∃ cause,
        (withDefaultFormat strict).upcoming now (some dateText) (some ruleText) count =
          .error (.request (.recurrence (.noMatch cause)))) ↔
        rule.comingDates start reference = ∅) ∧
      (rule.comingDates start reference ≠ ∅ →
        ∃ texts listed,
          (withDefaultFormat strict).upcoming now (some dateText) (some ruleText) count =
              .ok texts ∧
            List.Forall₂ (fun text date => CompactlyNames text.toList date) texts listed ∧
            LeadingDates (rule.comingDates start reference) listed ∧
            listed.length =
              min (min count.toNat 23) (rule.comingDates start reference).ncard) ∧
      (∀ fewer few many, 1 ≤ fewer → fewer ≤ count →
        (withDefaultFormat strict).upcoming now (some dateText) (some ruleText) fewer =
            .ok few →
          (withDefaultFormat strict).upcoming now (some dateText) (some ruleText) count =
              .ok many →
            few <+: many) := by
  have startRead :
      (withDefaultFormat strict).readDate (some dateText) = .ok start :=
    readDate_text_eq_ok_iff.mpr startNamed
  have nowRead :
      (withDefaultFormat strict).readReference now = .ok reference :=
    readReference_eq_ok_iff.mpr refers
  rw [← advance_eq_error_iff_comingDates]
  cases outcome : rule.advance start reference with
  | error cause =>
      have failed {count : Int} (positive : 1 ≤ count) :=
        upcoming_of_error startRead nowRead ruleRead positive outcome
      refine ⟨⟨fun _ => ⟨cause, rfl⟩, fun _ => ⟨cause, failed positive⟩⟩, ?_, ?_⟩
      · intro coming
        exact (coming (advance_eq_error_iff_comingDates.mp ⟨cause, outcome⟩)).elim
      · intro fewer few many fewerPositive _ fewListed
        rw [failed fewerPositive] at fewListed
        cases fewListed
  | ok first =>
      have succeeded {count : Int} (positive : 1 ≤ count) :=
        upcoming_of_ok startRead nowRead ruleRead positive outcome
      refine ⟨⟨?_, ?_⟩, ?_, ?_⟩
      · rintro ⟨cause, failed⟩
        rw [succeeded positive] at failed
        cases failed
      · rintro ⟨cause, impossible⟩
        cases impossible
      · intro _
        exact ⟨_, _, succeeded positive, compactlyName_writeDate _,
          leadingDates_occurrencesAfter rule start _ reference,
          length_occurrencesAfter rule start _ reference⟩
      · intro fewer few many fewerPositive fewerLe fewListed manyListed
        rw [succeeded fewerPositive] at fewListed
        rw [succeeded positive] at manyListed
        cases fewListed
        cases manyListed
        have capped : min fewer.toNat 23 ≤ min count.toNat 23 := by omega
        exact (occurrencesAfter_isPrefix rule start capped reference).map _

/-- 31 December 9997. -/
def nearTheEnd : Date :=
  .ofParts 9997 12 31 (by decide)

/--
Five yearly dates asked for near the end of the calendar are two, thirty Fridays of its last
month are five, and no last day of a month comes after the last day of all.
-/
theorem upcoming_nearTheEnd :
    (CompactlyNames "99971231".toList nearTheEnd ∧
        RefersToDay (.text "99971231") nearTheEnd ∧
        Rule.parse true "y".toList = .ok .yearly ∧
        (withDefaultFormat true).upcoming (.text "99971231") (some "99971231") (some "y") 5 =
          .ok ["99981231", "99991231"] ∧
        ∃ listed,
          List.Forall₂ (fun text date => CompactlyNames text.toList date)
              ["99981231", "99991231"] listed ∧
            LeadingDates (Rule.yearly.comingDates nearTheEnd nearTheEnd) listed ∧
            listed.length = min 5 (Rule.yearly.comingDates nearTheEnd nearTheEnd).ncard) ∧
      (CompactlyNames "99991201".toList firstOfLastMonth ∧
        RefersToDay (.moment (.time firstOfLastMonth 3600)) firstOfLastMonth ∧
        Rule.parse false "w 5".toList = .ok (.weekly fridays) ∧
        (withDefaultFormat false).upcoming (.moment (.time firstOfLastMonth 3600))
            (some "99991201") (some "w 5") 30 =
          .ok ["99991203", "99991210", "99991217", "99991224", "99991231"] ∧
        ∃ listed,
          List.Forall₂ (fun text date => CompactlyNames text.toList date)
              ["99991203", "99991210", "99991217", "99991224", "99991231"] listed ∧
            LeadingDates
              ((Rule.weekly fridays).comingDates firstOfLastMonth firstOfLastMonth) listed ∧
            listed.length =
              min 23 ((Rule.weekly fridays).comingDates firstOfLastMonth firstOfLastMonth).ncard) ∧
      (RefersToDay (.text "99991231") endOfCalendar ∧
        Rule.parse true "m -1".toList = .ok (.monthly lastDays) ∧
        (withDefaultFormat true).upcoming (.text "99991231") (some "99991201") (some "m -1") 1 =
          .error (.request (.recurrence (.noMatch .offCalendar))) ∧
        (Rule.monthly lastDays).comingDates firstOfLastMonth endOfCalendar = ∅) := by
  have firstNamed : CompactlyNames "99991201".toList firstOfLastMonth :=
    Date.ofCompact?_eq_some_iff.mp rfl
  refine ⟨?yearly, ?weekly, ?none⟩
  case yearly =>
    have startNamed : CompactlyNames "99971231".toList nearTheEnd :=
      Date.ofCompact?_eq_some_iff.mp rfl
    have answered :
        (withDefaultFormat true).upcoming (.text "99971231") (some "99971231") (some "y") 5 =
          .ok ["99981231", "99991231"] :=
      rfl
    obtain ⟨fails, lists, _⟩ :=
      upcoming_leadingDates true (.text "99971231") "99971231" "y" 5 nearTheEnd nearTheEnd .yearly
        startNamed (.named startNamed) rfl (by decide)
    obtain ⟨texts, listed, sameAnswer, named, leading, counted⟩ := lists fun empty => by
      obtain ⟨cause, failed⟩ := fails.mpr empty
      cases answered.symm.trans failed
    cases answered.symm.trans sameAnswer
    exact ⟨startNamed, .named startNamed, rfl, answered, listed, named, leading, counted⟩
  case weekly =>
    have answered :
        (withDefaultFormat false).upcoming (.moment (.time firstOfLastMonth 3600))
            (some "99991201") (some "w 5") 30 =
          .ok ["99991203", "99991210", "99991217", "99991224", "99991231"] := by
      apply eq_ok_of_toOption
      decide +kernel
    obtain ⟨fails, lists, _⟩ :=
      upcoming_leadingDates false (.moment (.time firstOfLastMonth 3600)) "99991201" "w 5" 30
        firstOfLastMonth firstOfLastMonth (.weekly fridays) firstNamed (.moment _) rfl (by decide)
    obtain ⟨texts, listed, sameAnswer, named, leading, counted⟩ := lists fun empty => by
      obtain ⟨cause, failed⟩ := fails.mpr empty
      cases answered.symm.trans failed
    cases answered.symm.trans sameAnswer
    exact ⟨firstNamed, .moment _, rfl, answered, listed, named, leading, counted⟩
  case none =>
    have lastNamed : CompactlyNames "99991231".toList endOfCalendar :=
      Date.ofCompact?_eq_some_iff.mp rfl
    have failed :
        (withDefaultFormat true).upcoming (.text "99991231") (some "99991201") (some "m -1") 1 =
          .error (.request (.recurrence (.noMatch .offCalendar))) :=
      rfl
    obtain ⟨fails, _⟩ :=
      upcoming_leadingDates true (.text "99991231") "99991201" "m -1" 1 firstOfLastMonth
        endOfCalendar (.monthly lastDays) firstNamed (.named lastNamed) rfl (by decide)
    exact ⟨.named lastNamed, rfl, failed, fails.mp ⟨_, failed⟩⟩

end Scheduler

end Recurrence
