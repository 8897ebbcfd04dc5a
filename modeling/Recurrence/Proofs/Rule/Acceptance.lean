import Recurrence.Proofs.Rule.GrammarLaws
import Recurrence.Rule.Parser

namespace Recurrence

/-!
# Which texts are read as rules

Reading accepts exactly the grammar of rule texts, and gives each text the rule that
the grammar gives it.  Only integers that are too long to be read are refused beside
the grammar.
-/

section Values

variable {values days months : List Int}

theorem IntegerSet.ne_nil_of_toList_ofList
    (nonempty : (IntegerSet.ofList values).toList ≠ []) :
    values ≠ [] := by
  rintro rfl
  exact nonempty rfl

/-- An interval makes a daily rule exactly if it is in range. -/
theorem Daily.ofInterval_eq_ok_iff
    {interval : Int}
    {rule : Daily} :
    Daily.ofInterval interval = .ok rule ↔ ∃ range, rule = ⟨interval, range⟩ := by
  rw [ofInterval]
  split
  · rename_i range
    simp [range, eq_comm]
  · rename_i outOfRange
    simp [outOfRange]

/-- Days make a weekly rule exactly if there are some and all are days of the week. -/
theorem Weekly.ofDays_eq_ok_iff
    {rule : Weekly} :
    Weekly.ofDays values = .ok rule ↔
      ∃ nonempty range, rule = Weekly.ofValues values nonempty range := by
  simp only [ofDays]
  split
  · rename_i valid
    have nonempty := IntegerSet.ne_nil_of_toList_ofList valid.1
    have range : ∀ day ∈ values, IsWeekday day := fun day member =>
      valid.2 day (IntegerSet.mem_ofList.mpr member)
    constructor
    · intro made
      exact ⟨nonempty, range, (Except.ok.inj made).symm⟩
    · rintro ⟨_, _, rfl⟩
      rfl
  · rename_i invalid
    constructor
    · intro made
      cases made
    · rintro ⟨nonempty, range, _⟩
      refine absurd ⟨IntegerSet.toList_ofList_ne_nil nonempty, ?_⟩ invalid
      exact fun day member => range day (IntegerSet.mem_ofList.mp member)

/-- Days and months make a monthly rule exactly if there are days and all are in range. -/
theorem Monthly.ofDaysAndMonths_eq_ok_iff
    {rule : Monthly} :
    Monthly.ofDaysAndMonths days months = .ok rule ↔
      ∃ nonempty daysRange monthsRange,
        rule = Monthly.ofValues days months nonempty daysRange monthsRange := by
  simp only [ofDaysAndMonths]
  split
  · rename_i validDays
    have nonempty := IntegerSet.ne_nil_of_toList_ofList validDays.1
    have daysRange : ∀ day ∈ days, IsMonthDay day := fun day member =>
      validDays.2 day (IntegerSet.mem_ofList.mpr member)
    split
    · rename_i validMonths
      have monthsRange : ∀ month ∈ months, IsMonth month := fun month member =>
        validMonths month (IntegerSet.mem_ofList.mpr member)
      constructor
      · intro made
        exact ⟨nonempty, daysRange, monthsRange, (Except.ok.inj made).symm⟩
      · rintro ⟨_, _, _, rfl⟩
        rfl
    · rename_i invalidMonths
      constructor
      · intro made
        cases made
      · rintro ⟨_, _, monthsRange, _⟩
        refine absurd ?_ invalidMonths
        exact fun month member => monthsRange month (IntegerSet.mem_ofList.mp member)
  · rename_i invalidDays
    constructor
    · intro made
      cases made
    · rintro ⟨nonempty, daysRange, _, _⟩
      refine absurd ⟨IntegerSet.toList_ofList_ne_nil nonempty, ?_⟩ invalidDays
      exact fun day member => daysRange day (IntegerSet.mem_ofList.mp member)

theorem checkMonthDays_eq_ok_iff
    {checked : Unit} :
    checkMonthDays days = .ok checked ↔ days ≠ [] ∧ ∀ day ∈ days, IsMonthDay day := by
  rw [checkMonthDays]
  split
  · rename_i valid
    exact ⟨fun _ => valid, fun _ => rfl⟩
  · rename_i invalid
    exact ⟨fun made => (by cases made), fun valid => absurd valid invalid⟩

end Values

section Reading

variable {error : RuleError} {strict : Bool} {rule : Rule}

/-- One integer is read exactly if it is short. -/
theorem readInteger_eq_ok_iff
    {item : List Char}
    {value : Int} :
    readInteger error item = .ok value ↔ Text.IsShortInteger item value := by
  rw [← Text.Numeral.ofText_eq_value_iff, readInteger]
  cases Text.Numeral.ofText item with
  | malformed => simp
  | oversized number => simp
  | value integer => simp

/-- Several integers are read exactly if each of them is short. -/
theorem readIntegers_eq_ok_iff
    {items : List (List Char)}
    {values : List Int} :
    readIntegers error items = .ok values ↔
      List.Forall₂ Text.IsShortInteger items values := by
  induction items generalizing values with
  | nil => simp [readIntegers, List.forall₂_nil_left_iff, eq_comm]
  | cons item items inductionHypothesis =>
      rw [readIntegers, bind_eq_ok_iff, List.forall₂_cons_left_iff]
      simp only [readInteger_eq_ok_iff, bind_eq_ok_iff, inductionHypothesis, pure, Except.pure,
        Except.ok.injEq]
      constructor
      · rintro ⟨first, firstRead, rest, restRead, rfl⟩
        exact ⟨first, rest, firstRead, restRead, rfl⟩
      · rintro ⟨first, rest, firstRead, restRead, rfl⟩
        exact ⟨first, firstRead, rest, restRead, rfl⟩

/-- Items are trimmed before they are read. -/
theorem readIntegers_trim_eq_ok_iff
    {items : List (List Char)}
    {values : List Int} :
    readIntegers error (items.map Text.trim) = .ok values ↔
      List.Forall₂ (trimmed Text.IsShortInteger) items values := by
  rw [readIntegers_eq_ok_iff, List.forall₂_map_left_iff]
  rfl

theorem readDaily_eq_ok_iff
    {parameters : List (List Char)} :
    readDaily parameters = .ok rule ↔
      Rule.Grammar Text.IsShortInteger strict (['d'] :: parameters) rule := by
  have oneInterval {interval : List Char} :
      readDaily [interval] = .ok rule ↔
        ∃ days, Text.IsShortInteger interval days ∧ ∃ range, rule = .daily ⟨days, range⟩ := by
    simp only [readDaily, bind_eq_ok_iff, Parsed.check_eq_ok_iff, readInteger_eq_ok_iff,
      Daily.ofInterval_eq_ok_iff, pure, Except.pure, Except.ok.injEq]
    constructor
    · rintro ⟨days, reading, _, ⟨range, rfl⟩, rfl⟩
      exact ⟨days, reading, range, rfl⟩
    · rintro ⟨days, reading, range, rfl⟩
      exact ⟨days, reading, _, ⟨range, rfl⟩, rfl⟩
  constructor
  · intro read
    match parameters, read with
    | [interval], read =>
        obtain ⟨days, reading, range, rfl⟩ := oneInterval.mp read
        exact .daily reading range
    | [], read => cases read
    | _ :: _ :: _, read => cases read
  · intro described
    cases described with
    | daily reading range => exact oneInterval.mpr ⟨_, reading, range, rfl⟩

theorem readYearly_eq_ok_iff
    {parameters : List (List Char)} :
    readYearly strict parameters = .ok rule ↔
      Rule.Grammar Text.IsShortInteger strict (['y'] :: parameters) rule := by
  rw [readYearly]
  split
  · rename_i surplus
    simp only [Bool.and_eq_true, Bool.not_eq_true', List.isEmpty_eq_false_iff] at surplus
    constructor
    · intro read
      cases read
    · intro described
      cases described with
      | yearly ignored => exact absurd (ignored surplus.1) surplus.2
  · rename_i noSurplus
    simp only [Bool.and_eq_true, Bool.not_eq_true', List.isEmpty_eq_false_iff, not_and,
      not_not] at noSurplus
    constructor
    · intro read
      cases read
      exact .yearly noSurplus
    · intro described
      cases described with
      | yearly _ => rfl

theorem readWeekly_eq_ok_iff
    {parameters : List (List Char)} :
    readWeekly parameters = .ok rule ↔
      Rule.Grammar Text.IsShortInteger strict (['w'] :: parameters) rule := by
  have oneList {token : List Char} :
      readWeekly [token] = .ok rule ↔
        ∃ days, ∃ listed : Lists Text.IsShortInteger IsWeekday token days,
          rule = .weekly (.ofValues days listed.ne_nil listed.allowed) := by
    simp only [readWeekly, bind_eq_ok_iff, Parsed.check_eq_ok_iff, readIntegers_eq_ok_iff,
      Weekly.ofDays_eq_ok_iff, pure, Except.pure, Except.ok.injEq]
    constructor
    · rintro ⟨days, items, _, ⟨_, range, rfl⟩, rfl⟩
      exact ⟨days, ⟨items, range⟩, rfl⟩
    · rintro ⟨days, listed, rfl⟩
      exact ⟨days, listed.items, _, ⟨listed.ne_nil, listed.allowed, rfl⟩, rfl⟩
  constructor
  · intro read
    match parameters, read with
    | [token], read =>
        obtain ⟨days, listed, rfl⟩ := oneList.mp read
        exact .weekly listed
    | [], read => cases read
    | _ :: _ :: _, read => cases read
  · intro described
    cases described with
    | weekly listed => exact oneList.mpr ⟨_, listed, rfl⟩

/-- A monthly rule is read from its days, which are checked, and from its months. -/
theorem readMonthly_cons_eq_ok_iff
    {token : List Char}
    {others : List (List Char)} :
    readMonthly strict (token :: others) = .ok rule ↔
      (strict = true → others.length ≤ 1) ∧
        ∃ days, ∃ listed : Lists (trimmed Text.IsShortInteger) IsMonthDay token days,
          ∃ months, readMonths others = .ok months ∧
            ∃ monthsRange,
              rule = .monthly (.ofValues days months listed.ne_nil listed.allowed monthsRange) := by
  rw [readMonthly]
  split
  · rename_i surplus
    simp only [Bool.and_eq_true, decide_eq_true_eq] at surplus
    constructor
    · intro read
      cases read
    · rintro ⟨atMostOne, _⟩
      exact absurd (atMostOne surplus.1) (Nat.not_le.mpr surplus.2)
  · rename_i noSurplus
    simp only [Bool.and_eq_true, decide_eq_true_eq, not_and, Nat.not_lt] at noSurplus
    simp only [listItems, bind_eq_ok_iff, Parsed.check_eq_ok_iff, readIntegers_trim_eq_ok_iff,
      checkMonthDays_eq_ok_iff, Monthly.ofDaysAndMonths_eq_ok_iff, pure, Except.pure,
      Except.ok.injEq]
    constructor
    · rintro ⟨days, items, _, ⟨_, range⟩, months, monthsRead, _, ⟨_, _, monthsRange, rfl⟩, rfl⟩
      exact ⟨noSurplus, days, ⟨items, range⟩, months, monthsRead, monthsRange, rfl⟩
    · rintro ⟨_, days, listed, months, monthsRead, monthsRange, rfl⟩
      exact ⟨days, listed.items, (), ⟨listed.ne_nil, listed.allowed⟩, months, monthsRead, _,
        ⟨listed.ne_nil, listed.allowed, monthsRange, rfl⟩, rfl⟩

theorem readMonthly_eq_ok_iff
    {parameters : List (List Char)} :
    readMonthly strict parameters = .ok rule ↔
      Rule.Grammar Text.IsShortInteger strict (['m'] :: parameters) rule := by
  constructor
  · intro read
    match parameters, read with
    | [], read => cases read
    | [token], read =>
        obtain ⟨_, days, listed, months, monthsRead, _, rfl⟩ := readMonthly_cons_eq_ok_iff.mp read
        cases monthsRead
        exact .everyMonth listed
    | dayToken :: monthToken :: surplus, read =>
        obtain ⟨atMostOne, days, listed, months, monthsRead, monthsRange, rfl⟩ :=
          readMonthly_cons_eq_ok_iff.mp read
        rw [readMonths, listItems, readIntegers_trim_eq_ok_iff] at monthsRead
        refine .someMonths listed ⟨monthsRead, monthsRange⟩ fun isStrict => ?_
        simpa using atMostOne isStrict
  · intro described
    cases described with
    | everyMonth listed =>
        exact readMonthly_cons_eq_ok_iff.mpr
          ⟨fun _ => by simp, _, listed, [], rfl, by simp, rfl⟩
    | someMonths listedDays listedMonths ignored =>
        refine readMonthly_cons_eq_ok_iff.mpr
          ⟨fun isStrict => by simp [ignored isStrict], _, listedDays, _, ?_,
            listedMonths.allowed, rfl⟩
        rw [readMonths, listItems, readIntegers_trim_eq_ok_iff]
        exact listedMonths.items

/-- Tokens are read as the rule that they describe with short integers. -/
theorem readTokens_eq_ok_iff
    {tokens : List (List Char)} :
    readTokens strict tokens = .ok rule ↔
      Rule.Grammar Text.IsShortInteger strict tokens rule := by
  unfold readTokens
  split
  · exact readDaily_eq_ok_iff
  · exact readYearly_eq_ok_iff
  · exact readWeekly_eq_ok_iff
  · exact readMonthly_eq_ok_iff
  · rename_i notDaily notYearly notWeekly notMonthly
    constructor
    · intro read
      cases read
    · intro described
      cases described with
      | daily => exact (notDaily _ rfl).elim
      | yearly => exact (notYearly _ rfl).elim
      | weekly => exact (notWeekly _ rfl).elim
      | everyMonth => exact (notMonthly _ rfl).elim
      | someMonths => exact (notMonthly _ rfl).elim

end Reading

namespace Rule

section Texts

variable {strict : Bool} {text : List Char} {rule : Rule}

/-- A text is read as the rule that its tokens describe with short integers. -/
theorem parse_eq_ok_iff_short :
    Rule.parse strict text = .ok rule ↔
      Grammar Text.IsShortInteger strict (Text.splitOn ' ' text) rule := by
  rw [← readTokens_eq_ok_iff, parse]
  cases text with
  | nil => exact ⟨fun read => (by cases read), fun read => (by cases read)⟩
  | cons c rest => rfl

/-- The order and the repetition of list items do not change what is read. -/
theorem parse_of_sameLists
    {other : List Char}
    (same : SameLists text other)
    (read : Rule.parse strict text = .ok rule) :
    Rule.parse strict other = .ok rule := by
  obtain ⟨letter, lists, otherLists, notDaily, tokens, otherTokens, sameItems⟩ := same
  rw [parse_eq_ok_iff_short] at read ⊢
  rw [tokens] at read
  rw [otherTokens]
  exact read.of_sameItems readsUniquely_isShortInteger notDaily sameItems

theorem empty_mem_of_hasStraySpace
    (stray : HasStraySpace text) :
    [] ∈ Text.splitOn ' ' text := by
  rcases stray with ⟨rest, rfl⟩ | ⟨start, rfl⟩ | ⟨start, rest, rfl⟩
  · exact List.mem_cons_self
  · rw [Text.splitOn_append_separator]
    exact List.mem_append_right _ List.mem_cons_self
  · rw [Text.splitOn_append_separator]
    exact List.mem_append_right _ List.mem_cons_self

/-- A stray space makes an empty token, which must be a surplus one. -/
theorem surplus_of_hasStraySpace
    (read : Rule.parse strict text = .ok rule)
    (stray : HasStraySpace text) :
    strict = false ∧
      (rule = .yearly ∨
        ∃ parameters, rule = .monthly parameters ∧ [] ∉ (Text.splitOn ' ' text).take 3) := by
  refine (parse_eq_ok_iff_short.mp read).empty_token ?_ (empty_mem_of_hasStraySpace stray)
  rintro value ⟨digits, written, _⟩
  cases written with
  | unsigned number => exact number.nonempty rfl

end Texts

/--
A text is read as a rule exactly if the grammar gives it that rule with integers that
are not too long; in a text without oversized items these are all integers.  Neither
the order of list items nor their repetition matters, and texts with stray spaces are
read only leniently, with these spaces among the surplus tokens.
-/
theorem parse_eq_ok_iff_grammar
    (strict : Bool)
    (text : List Char) :
    (∀ rule, Rule.parse strict text = .ok rule ↔
        Grammar Text.IsShortInteger strict (Text.splitOn ' ' text) rule) ∧
      (¬ HasOversizedItem text →
        ∀ rule, Rule.parse strict text = .ok rule ↔
          Grammar Text.IsInteger strict (Text.splitOn ' ' text) rule) ∧
      (∀ other, SameLists text other →
        ∀ rule, Rule.parse strict text = .ok rule ↔ Rule.parse strict other = .ok rule) ∧
      (∀ rule, Rule.parse strict text = .ok rule → HasStraySpace text →
        strict = false ∧
          (rule = .yearly ∨
            ∃ parameters, rule = .monthly parameters ∧
              [] ∉ (Text.splitOn ' ' text).take 3)) := by
  refine ⟨fun rule => parse_eq_ok_iff_short, ?_, ?_, ?_⟩
  · intro noneOversized rule
    rw [parse_eq_ok_iff_short]
    apply Grammar.isShortInteger_iff
    intro token listed item inside number oversized
    exact noneOversized ⟨token, listed, item, inside, number, oversized⟩
  · intro other same rule
    exact ⟨parse_of_sameLists same, parse_of_sameLists same.symm⟩
  · intro rule read stray
    exact surplus_of_hasStraySpace read stray

end Rule

/-- Only a text of more than 4300 characters has an oversized item. -/
theorem not_hasOversizedItem_of_length_le
    {text : List Char}
    (short : text.length ≤ Text.maxDigits) :
    ¬ HasOversizedItem text := by
  rintro ⟨token, listed, item, inside, number, digits, value, written, long, _⟩
  have inTrimmed := written.length_le
  have inItem := Text.length_trim_le item
  have inToken := Text.length_le_of_mem_splitOn inside
  have inWhole := Text.length_le_of_mem_splitOn listed
  omega

namespace Rule

/-- A strictly read rule with signs, leading zeros, repetition and white space around items. -/
theorem parse_spacedMonthly :
    ¬ HasOversizedItem "m 3,\t-1,+03 12".toList ∧
      Grammar Text.IsInteger true (Text.splitOn ' ' "m 3,\t-1,+03 12".toList)
        (.monthly ⟨.ofList [-1, 3], .ofList [12], by decide, by decide, by decide⟩) := by
  have noneOversized : ¬ HasOversizedItem "m 3,\t-1,+03 12".toList :=
    not_hasOversizedItem_of_length_le (by decide)
  exact ⟨noneOversized, ((parse_eq_ok_iff_grammar true _).2.1 noneOversized _).mp rfl⟩

end Rule

end Recurrence
