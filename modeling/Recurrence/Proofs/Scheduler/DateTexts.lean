import Recurrence.Proofs.Calendar.CompactPattern
import Recurrence.Scheduler

namespace Recurrence

/-!
# Dates exchanged in the default format

In the default format a date has one text, eight digits, and a text that is not the
text of a date is refused.  Such texts can be compared in place of their dates.
-/

namespace DateFormat

/-- The guard of eight digits leaves the pattern with what the compact form reads. -/
theorem read?_compact_eq_guarded
    (text : List Char) :
    compact.read? text =
      if text.length = 8 ∧ text.all Char.isDigit then
        (custom (Pattern.ofText compactPattern.toList)).read? text
      else
        none := by
  split
  · rename_i guarded
    exact (Pattern.read?_compact guarded.1 (List.all_eq_true.mp guarded.2)).symm
  · rename_i refused
    cases found : compact.read? text with
    | none => rfl
    | some date =>
        obtain ⟨width, allDigits⟩ := Date.digits_of_ofCompact? found
        exact (refused ⟨width, List.all_eq_true.mpr allDigits⟩).elim

end DateFormat

namespace Scheduler

/-- A date that is read is what the format reads in a text. -/
theorem readDate_eq_ok_iff
    {scheduler : Scheduler}
    {value : Option String}
    {date : Date} :
    scheduler.readDate value = .ok date ↔
      ∃ text, value = some text ∧ scheduler.format.read? text.toList = some date := by
  rw [← Option.bind_eq_some_iff, readDate]
  cases value.bind fun text => scheduler.format.read? text.toList with
  | none => exact ⟨nofun, nofun⟩
  | some found => rw [Except.ok.injEq, Option.some.injEq]

theorem readDate_eq_error
    {scheduler : Scheduler}
    {value : Option String}
    {failure : RequestError}
    (refused : scheduler.readDate value = .error failure) :
    failure = .recurrence .invalidDate := by
  rw [readDate] at refused
  split at refused
  · cases refused
  · cases refused
    rfl

/-- A scheduler for the date format that is used where none is asked for. -/
def withDefaultFormat (strict : Bool) : Scheduler :=
  ⟨strict, .ofText DateFormat.compactPattern⟩

variable {strict : Bool}

theorem readDate_eq_ok_iff_compactlyNames
    {value : Option String}
    {date : Date} :
    (withDefaultFormat strict).readDate value = .ok date ↔
      ∃ text, value = some text ∧ CompactlyNames text.toList date := by
  simp only [readDate_eq_ok_iff, ← Date.ofCompact?_eq_some_iff]
  rfl

theorem readDate_text_eq_ok_iff
    {text : String}
    {date : Date} :
    (withDefaultFormat strict).readDate (some text) = .ok date ↔
      CompactlyNames text.toList date := by
  rw [readDate_eq_ok_iff_compactlyNames]
  constructor
  · rintro ⟨_, same, named⟩
    cases same
    exact named
  · intro named
    exact ⟨text, rfl, named⟩

theorem toList_writeDate
    (date : Date) :
    ((withDefaultFormat strict).writeDate date).toList = date.compact :=
  String.toList_ofList

/--
In the default format, reading and writing a date undo each other.  The texts that
are read are those of eight digits that name a date, which is also what the pattern
of the format gives on eight digits, and anything else is an invalid date.  Dates are
ordered as their texts.
-/
theorem dateTexts_correspond
    (strict : Bool) :
    (∀ date,
        (withDefaultFormat strict).readDate
          (some ((withDefaultFormat strict).writeDate date)) = .ok date) ∧
      (∀ text date,
        (withDefaultFormat strict).readDate (some text) = .ok date ↔
          CompactlyNames text.toList date) ∧
      (∀ text date, (withDefaultFormat strict).readDate (some text) = .ok date →
        (withDefaultFormat strict).writeDate date = text) ∧
      (∀ value : Option String,
        (¬ ∃ text date, value = some text ∧ CompactlyNames text.toList date) →
          (withDefaultFormat strict).readDate value = .error (.recurrence .invalidDate)) ∧
      (∀ text,
        (withDefaultFormat strict).format.read? text =
          if text.length = 8 ∧ text.all Char.isDigit then
            (DateFormat.custom (Pattern.ofText DateFormat.compactPattern.toList)).read? text
          else
            none) ∧
      (∀ earlier later : Date,
        earlier < later ↔
          (withDefaultFormat strict).writeDate earlier <
            (withDefaultFormat strict).writeDate later) := by
  refine ⟨?_, fun text date => readDate_text_eq_ok_iff, ?_, ?_,
    DateFormat.read?_compact_eq_guarded, ?_⟩
  · intro date
    rw [readDate_text_eq_ok_iff, toList_writeDate]
    exact date.compactlyNames_compact
  · intro text date read
    apply String.toList_injective
    rw [toList_writeDate, Date.compact_of_compactlyNames (readDate_text_eq_ok_iff.mp read)]
  · intro value unnamed
    cases read : (withDefaultFormat strict).readDate value with
    | ok date =>
        obtain ⟨text, isText, named⟩ := readDate_eq_ok_iff_compactlyNames.mp read
        exact (unnamed ⟨text, date, isText, named⟩).elim
    | error failure => rw [readDate_eq_error read]
  · intro earlier later
    rw [String.lt_iff, toList_writeDate, toList_writeDate]
    exact Date.lt_iff_compact_lt

/-- A leap day is read and written, and month 13 is not read as month 1 and day 30. -/
theorem dateTexts_leapDay :
    (withDefaultFormat false).readDate (some "20240229") = .ok leapDay ∧
      (withDefaultFormat false).writeDate leapDay = "20240229" ∧
      (withDefaultFormat false).readDate (some "20241301") =
        .error (.recurrence .invalidDate) := by
  obtain ⟨_, reads, writes, refuses, _⟩ := dateTexts_correspond false
  have read : (withDefaultFormat false).readDate (some "20240229") = .ok leapDay := rfl
  refine ⟨read, writes _ _ read, refuses _ ?_⟩
  rintro ⟨text, date, same, named⟩
  cases same
  have month := named.month
  have range := date.month_range
  have thirteen : Text.naturalOfDigits (("20241301".toList.drop 4).take 2) = 13 := by
    decide +kernel
  omega

end Scheduler

end Recurrence
