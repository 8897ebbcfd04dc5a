import Recurrence.Proofs.Rule.Acceptance

namespace Recurrence

/-!
# Rule texts that reading gives up on

A rule text is read from left to right.  Where an integer with too many digits comes
before anything else that is wrong, the text is neither read nor refused as a rule.
-/

/-- The first item that is no short integer is one with too many digits. -/
def StumblesOver (items : List (List Char)) (number : Text.Oversized) : Prop :=
  ∃ earlier item later,
    items = earlier ++ item :: later ∧
      (∀ passed ∈ earlier, ∃ value, Text.IsShortInteger passed value) ∧
        Text.IsOversized item number

/-- Tokens of which reading meets a number with too many digits before any other fault. -/
inductive Rule.Overlong
    (strict : Bool)
    (number : Text.Oversized) :
    List (List Char) → Prop where
  | interval {interval : List Char}
      (oversized : Text.IsOversized interval number) :
      Overlong strict number [['d'], interval]
  | weekdays {token : List Char}
      (stumbles : StumblesOver (Text.splitOn ',' token) number) :
      Overlong strict number [['w'], token]
  | monthDays {token : List Char} {others : List (List Char)}
      (ignored : strict = true → others.length ≤ 1)
      (stumbles : StumblesOver ((Text.splitOn ',' token).map Text.trim) number) :
      Overlong strict number (['m'] :: token :: others)
  | months {dayToken monthToken : List Char} {days : List Int}
      {surplus : List (List Char)}
      (ignored : strict = true → surplus = [])
      (listedDays : Lists (trimmed Text.IsShortInteger) IsMonthDay dayToken days)
      (stumbles : StumblesOver ((Text.splitOn ',' monthToken).map Text.trim) number) :
      Overlong strict number (['m'] :: dayToken :: monthToken :: surplus)

theorem StumblesOver.exists_mem
    {items : List (List Char)}
    {number : Text.Oversized}
    (stumbles : StumblesOver items number) :
    ∃ item ∈ items, Text.IsOversized item number := by
  obtain ⟨earlier, item, later, rfl, _, oversized⟩ := stumbles
  exact ⟨item, List.mem_append_right earlier List.mem_cons_self, oversized⟩

section Reading

variable {error : RuleError} {strict : Bool} {number : Text.Oversized}

/-- A check gives no verdict but those on rules. -/
theorem Parsed.check_ne_oversized
    {result : Except RuleError α} :
    Parsed.check result ≠ .error (.oversized number) := by
  cases result with
  | error error => simp
  | ok value => simp

theorem readInteger_eq_oversized_iff
    {item : List Char} :
    readInteger error item = .error (.oversized number) ↔ Text.IsOversized item number := by
  rw [← Text.Numeral.ofText_eq_oversized_iff, readInteger]
  cases Text.Numeral.ofText item with
  | malformed => simp
  | oversized found => simp
  | value integer => simp

/-- An item that is read is passed over, one with too many digits ends the reading. -/
theorem stumblesOver_cons_iff
    {item : List Char}
    {items : List (List Char)} :
    StumblesOver (item :: items) number ↔
      Text.IsOversized item number ∨
        (∃ value, Text.IsShortInteger item value) ∧ StumblesOver items number := by
  constructor
  · rintro ⟨earlier, oversized, later, shape, passed, isOversized⟩
    cases earlier with
    | nil =>
        cases shape
        exact Or.inl isOversized
    | cons first earlier =>
        cases shape
        exact Or.inr ⟨passed item List.mem_cons_self, earlier, oversized, later, rfl,
          fun other member => passed other (List.mem_cons_of_mem item member), isOversized⟩
  · rintro (isOversized | ⟨isShort, earlier, oversized, later, rfl, passed, isOversized⟩)
    · exact ⟨[], item, items, rfl, nofun, isOversized⟩
    · exact ⟨item :: earlier, oversized, later, rfl,
        List.forall_mem_cons.mpr ⟨isShort, passed⟩, isOversized⟩

theorem readIntegers_eq_oversized_iff
    {items : List (List Char)} :
    readIntegers error items = .error (.oversized number) ↔ StumblesOver items number := by
  induction items with
  | nil =>
      constructor
      · intro read
        cases read
      · rintro ⟨earlier, item, later, shape, _⟩
        simp at shape
  | cons item items inductionHypothesis =>
      simp only [readIntegers, bind_eq_error_iff, readInteger_eq_oversized_iff,
        readInteger_eq_ok_iff, inductionHypothesis, stumblesOver_cons_iff, pure, Except.pure,
        reduceCtorEq, and_false, exists_false, or_false, exists_and_right]

theorem readDaily_eq_oversized_iff
    {parameters : List (List Char)} :
    readDaily parameters = .error (.oversized number) ↔
      Rule.Overlong strict number (['d'] :: parameters) := by
  have oneInterval {interval : List Char} :
      readDaily [interval] = .error (.oversized number) ↔ Text.IsOversized interval number := by
    simp only [readDaily, bind_eq_error_iff, readInteger_eq_oversized_iff,
      Parsed.check_ne_oversized, pure, Except.pure, reduceCtorEq, and_false, exists_false,
      or_false]
  constructor
  · intro read
    cases parameters with
    | nil => cases read
    | cons interval others =>
        cases others with
        | nil => exact .interval (oneInterval.mp read)
        | cons => cases read
  · intro overlong
    cases overlong with
    | interval oversized => exact oneInterval.mpr oversized

theorem readYearly_ne_oversized
    {parameters : List (List Char)} :
    readYearly strict parameters ≠ .error (.oversized number) := by
  rw [readYearly]
  split
  · simp
  · simp

theorem readWeekly_eq_oversized_iff
    {parameters : List (List Char)} :
    readWeekly parameters = .error (.oversized number) ↔
      Rule.Overlong strict number (['w'] :: parameters) := by
  have oneList {token : List Char} :
      readWeekly [token] = .error (.oversized number) ↔
        StumblesOver (Text.splitOn ',' token) number := by
    simp only [readWeekly, listItems, bind_eq_error_iff, readIntegers_eq_oversized_iff,
      Parsed.check_ne_oversized, pure, Except.pure, reduceCtorEq, and_false, exists_false,
      or_false]
  constructor
  · intro read
    cases parameters with
    | nil => cases read
    | cons token others =>
        cases others with
        | nil => exact .weekdays (oneList.mp read)
        | cons => cases read
  · intro overlong
    cases overlong with
    | weekdays stumbles => exact oneList.mpr stumbles

/-- The days of a monthly rule are read and checked before its months. -/
theorem readMonthly_cons_eq_oversized_iff
    {token : List Char}
    {others : List (List Char)} :
    readMonthly strict (token :: others) = .error (.oversized number) ↔
      (strict = true → others.length ≤ 1) ∧
        (StumblesOver ((Text.splitOn ',' token).map Text.trim) number ∨
          (∃ days, Lists (trimmed Text.IsShortInteger) IsMonthDay token days) ∧
            readMonths others = .error (.oversized number)) := by
  rw [readMonthly]
  split
  · rename_i surplus
    simp only [Bool.and_eq_true, decide_eq_true_eq] at surplus
    constructor
    · intro read
      cases read
    · rintro ⟨atMostOne, _⟩
      exact absurd (atMostOne surplus.1) (Nat.not_le.mpr surplus.2)
  · rename_i noSurplus
    simp only [Bool.and_eq_true, decide_eq_true_eq, not_and, Nat.not_lt] at noSurplus
    simp only [listItems, bind_eq_error_iff, Parsed.check_ne_oversized, Parsed.check_eq_ok_iff,
      readIntegers_eq_oversized_iff, readIntegers_trim_eq_ok_iff, checkMonthDays_eq_ok_iff, pure,
      Except.pure, reduceCtorEq, and_false, exists_false, or_false, false_or]
    constructor
    · rintro (stumbles | ⟨days, items, _, ⟨_, range⟩, monthsRead⟩)
      · exact ⟨noSurplus, Or.inl stumbles⟩
      · exact ⟨noSurplus, Or.inr ⟨⟨days, items, range⟩, monthsRead⟩⟩
    · rintro ⟨_, stumbles | ⟨⟨days, listed⟩, monthsRead⟩⟩
      · exact Or.inl stumbles
      · exact Or.inr ⟨days, listed.items, (), ⟨listed.ne_nil, listed.allowed⟩, monthsRead⟩

theorem readMonthly_eq_oversized_iff
    {parameters : List (List Char)} :
    readMonthly strict parameters = .error (.oversized number) ↔
      Rule.Overlong strict number (['m'] :: parameters) := by
  constructor
  · intro read
    cases parameters with
    | nil => cases read
    | cons token others =>
        obtain ⟨ignored, stumbles | ⟨⟨days, listed⟩, monthsRead⟩⟩ :=
          readMonthly_cons_eq_oversized_iff.mp read
        · exact .monthDays ignored stumbles
        · cases others with
          | nil => cases monthsRead
          | cons monthToken surplus =>
              refine .months (fun isStrict => ?_) listed
                (readIntegers_eq_oversized_iff.mp monthsRead)
              simpa using ignored isStrict
  · intro overlong
    cases overlong with
    | monthDays ignored stumbles =>
        exact readMonthly_cons_eq_oversized_iff.mpr ⟨ignored, Or.inl stumbles⟩
    | months ignored listed stumbles =>
        refine readMonthly_cons_eq_oversized_iff.mpr
          ⟨fun isStrict => by simp [ignored isStrict], Or.inr ⟨⟨_, listed⟩, ?_⟩⟩
        exact readIntegers_eq_oversized_iff.mpr stumbles

theorem readTokens_eq_oversized_iff
    {tokens : List (List Char)} :
    readTokens strict tokens = .error (.oversized number) ↔
      Rule.Overlong strict number tokens := by
  unfold readTokens
  split
  · exact readDaily_eq_oversized_iff
  · constructor
    · intro read
      exact (readYearly_ne_oversized read).elim
    · intro overlong
      cases overlong
  · exact readWeekly_eq_oversized_iff
  · exact readMonthly_eq_oversized_iff
  · rename_i notDaily notYearly notWeekly notMonthly
    constructor
    · intro read
      cases read
    · intro overlong
      cases overlong with
      | interval => exact (notDaily _ rfl).elim
      | weekdays => exact (notWeekly _ rfl).elim
      | monthDays => exact (notMonthly _ rfl).elim
      | months => exact (notMonthly _ rfl).elim

end Reading

namespace Rule

variable {strict : Bool} {number : Text.Oversized} {text : List Char}

/-- An overlong text has an item that is an integer with too many digits. -/
theorem Overlong.hasOversizedItem
    (overlong : Overlong strict number (Text.splitOn ' ' text)) :
    HasOversizedItem text := by
  have trimmedItem {item : List Char} (oversized : Text.IsOversized item number) :
      Text.IsOversized (Text.trim item) number := by
    obtain ⟨value, integer⟩ := oversized.exists_isInteger
    rwa [integer.trim_eq]
  generalize tokens : Text.splitOn ' ' text = pieces at overlong
  cases overlong with
  | @interval interval oversized =>
      obtain ⟨value, integer⟩ := oversized.exists_isInteger
      refine ⟨interval, by simp [tokens], interval, ?_, number, trimmedItem oversized⟩
      rw [Text.splitOn_eq_singleton integer.comma_not_mem]
      exact List.mem_cons_self
  | @weekdays token stumbles =>
      obtain ⟨item, inside, oversized⟩ := stumbles.exists_mem
      exact ⟨token, by simp [tokens], item, inside, number, trimmedItem oversized⟩
  | @monthDays token others ignored stumbles =>
      obtain ⟨_, inside, oversized⟩ := stumbles.exists_mem
      obtain ⟨item, inToken, rfl⟩ := List.mem_map.mp inside
      exact ⟨token, by simp [tokens], item, inToken, number, oversized⟩
  | @months dayToken monthToken days surplus ignored listed stumbles =>
      obtain ⟨_, inside, oversized⟩ := stumbles.exists_mem
      obtain ⟨item, inToken, rfl⟩ := List.mem_map.mp inside
      exact ⟨monthToken, by simp [tokens], item, inToken, number, oversized⟩

/-- Reading gives up on exactly the texts with overlong tokens. -/
theorem parse_eq_oversized_iff :
    Rule.parse strict text = .error (.oversized number) ↔
      Overlong strict number (Text.splitOn ' ' text) := by
  rw [← readTokens_eq_oversized_iff, parse]
  cases text with
  | nil => exact ⟨fun read => (by cases read), fun read => (by cases read)⟩
  | cons c rest => rfl

end Rule

end Recurrence
