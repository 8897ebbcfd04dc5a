import Recurrence.Proofs.Rule.Overlong
import Recurrence.Proofs.Rule.Strictness

namespace Recurrence

/-!
# What a rejected rule text is rejected for

A rule text can have several faults at once, but it is rejected for one of them: the first
one in a fixed order, which goes from the letter over the number of the tokens and the days
to the months.
-/

/-- The first token of a text is the letter of a kind of rules. -/
def HasRuleLetter (text : List Char) : Prop :=
  ∃ letter ∈ ['d', 'y', 'w', 'm'], ∃ parameters, Text.splitOn ' ' text = [letter] :: parameters

/-- Some item of a list token is no integer, or has a value that is not allowed. -/
def HasBadItem (IsAllowed : Int → Prop) (token : List Char) : Prop :=
  ∃ item ∈ Text.splitOn ',' token, ∀ value, trimmed Text.IsInteger item value → ¬ IsAllowed value

/-- The kind of failure that a rejected text has by the first of its faults. -/
structure IsFirstFault (strict : Bool) (text : List Char) (kind : ErrorKind) : Prop where
  empty : kind = .emptyRule ↔ text = []
  unsupported : text ≠ [] → (kind = .unsupportedRuleKind ↔ ¬ HasRuleLetter text)
  daily :
    ∀ parameters, Text.splitOn ' ' text = ['d'] :: parameters → kind = .invalidDayInterval
  weekly :
    ∀ parameters, Text.splitOn ' ' text = ['w'] :: parameters → kind = .invalidWeekday
  yearly :
    ∀ parameters, Text.splitOn ' ' text = ['y'] :: parameters → kind = .invalidRule
  noDays : Text.splitOn ' ' text = [['m']] → kind = .invalidMonthDay
  surplus :
    ∀ days others, Text.splitOn ' ' text = ['m'] :: days :: others →
      strict = true → 1 < others.length → kind = .invalidRule
  monthDay :
    ∀ days others, Text.splitOn ' ' text = ['m'] :: days :: others →
      (strict = true → others.length ≤ 1) → HasBadItem IsMonthDay days →
        kind = .invalidMonthDay
  month :
    ∀ days others, Text.splitOn ' ' text = ['m'] :: days :: others →
      (strict = true → others.length ≤ 1) → ¬ HasBadItem IsMonthDay days →
        kind = .invalidMonth ∧
          ∃ months surplus, others = months :: surplus ∧ HasBadItem IsMonth months

namespace RuleError

variable {error : RuleError}

theorem kind_eq_emptyRule_iff :
    error.kind = .emptyRule ↔ error = .empty := by
  cases error <;> decide

theorem kind_eq_unsupportedRuleKind_iff :
    error.kind = .unsupportedRuleKind ↔ error = .unsupportedKind := by
  cases error <;> decide

end RuleError

/-- A text has one kind of failure by its first fault. -/
theorem IsFirstFault.unique
    {strict : Bool}
    {text : List Char}
    {kind other : ErrorKind}
    (one : IsFirstFault strict text kind)
    (two : IsFirstFault strict text other) :
    kind = other := by
  by_cases nonempty : text = []
  · rw [one.empty.mpr nonempty, two.empty.mpr nonempty]
  by_cases hasLetter : HasRuleLetter text
  · obtain ⟨letter, ofRule, parameters, cut⟩ := hasLetter
    simp only [List.mem_cons, List.not_mem_nil, or_false] at ofRule
    rcases ofRule with rfl | rfl | rfl | rfl
    · rw [one.daily _ cut, two.daily _ cut]
    · rw [one.yearly _ cut, two.yearly _ cut]
    · rw [one.weekly _ cut, two.weekly _ cut]
    · cases parameters with
      | nil => rw [one.noDays cut, two.noDays cut]
      | cons days others =>
          by_cases fits : strict = true → others.length ≤ 1
          · by_cases bad : HasBadItem IsMonthDay days
            · rw [one.monthDay _ _ cut fits bad, two.monthDay _ _ cut fits bad]
            · rw [(one.month _ _ cut fits bad).1, (two.month _ _ cut fits bad).1]
          · rw [Classical.not_imp, Nat.not_le] at fits
            rw [one.surplus _ _ cut fits.1 fits.2, two.surplus _ _ cut fits.1 fits.2]
  · rw [(one.unsupported nonempty).mpr hasLetter, (two.unsupported nonempty).mpr hasLetter]

section Items

variable {given error : RuleError} {item token : List Char} {items : List (List Char)}

/-- Reading an integer finds fault with what is no integer. -/
theorem not_isInteger_of_readInteger
    (read : readInteger given item = .error (.rule error)) :
    ∀ value, ¬ Text.IsInteger item value := by
  rw [← Text.Numeral.ofText_eq_malformed_iff]
  rw [readInteger] at read
  split at read
  · assumption
  · cases read
  · cases read

theorem exists_malformed_of_readIntegers
    (read : readIntegers given items = .error (.rule error)) :
    ∃ item ∈ items, ∀ value, ¬ Text.IsInteger item value := by
  induction items with
  | nil => cases read
  | cons item items inductionHypothesis =>
      rw [readIntegers, bind_eq_error_iff] at read
      rcases read with first | ⟨_, _, rest⟩
      · exact ⟨item, List.mem_cons_self, not_isInteger_of_readInteger first⟩
      · rcases bind_eq_error_iff.mp rest with rest | ⟨_, _, impossible⟩
        · obtain ⟨malformed, inRest, noInteger⟩ := inductionHypothesis rest
          exact ⟨malformed, List.mem_cons_of_mem item inRest, noInteger⟩
        · cases impossible

/-- A list that cannot be read has a bad item, whatever values are allowed. -/
theorem hasBadItem_of_readIntegers
    {IsAllowed : Int → Prop}
    (read : readIntegers given ((listItems token).map Text.trim) = .error (.rule error)) :
    HasBadItem IsAllowed token := by
  obtain ⟨_, listed, noInteger⟩ := exists_malformed_of_readIntegers read
  obtain ⟨item, inside, rfl⟩ := List.mem_map.mp listed
  exact ⟨item, inside, fun value integer => (noInteger value integer).elim⟩

/-- A list that is read has a bad item exactly if one of its values is not allowed. -/
theorem hasBadItem_iff
    {IsAllowed : Int → Prop}
    {values : List Int}
    (items : List.Forall₂ (trimmed Text.IsShortInteger) (Text.splitOn ',' token) values) :
    HasBadItem IsAllowed token ↔ ∃ value ∈ values, ¬ IsAllowed value := by
  have unique : ReadsUniquely (trimmed Text.IsShortInteger) :=
    readsUniquely_isShortInteger.trimmed
  constructor
  · rintro ⟨item, inside, bad⟩
    obtain ⟨value, reading⟩ := exists_of_forall₂ items inside
    have inValues := (mem_iff_of_forall₂ unique items).mpr ⟨item, inside, reading⟩
    exact ⟨value, inValues, bad value reading.isInteger⟩
  · rintro ⟨value, inValues, notAllowed⟩
    obtain ⟨item, inside, reading⟩ := (mem_iff_of_forall₂ unique items).mp inValues
    refine ⟨item, inside, fun another integer => ?_⟩
    rwa [integer.unique reading.isInteger]

end Items

section Constructors

variable {error : RuleError} {days months values : List Int}

theorem Daily.ofInterval_eq_error
    {interval : Int}
    (made : Daily.ofInterval interval = .error error) :
    error = .dayInterval := by
  rw [ofInterval] at made
  split at made
  · cases made
  · cases made
    rfl

theorem Weekly.ofDays_eq_error
    (made : Weekly.ofDays values = .error error) :
    error = .weekday := by
  simp only [ofDays] at made
  split at made
  · cases made
  · cases made
    rfl

theorem checkMonthDays_eq_error_iff :
    checkMonthDays days = .error error ↔
      error = .monthDay ∧ (days = [] ∨ ∃ day ∈ days, ¬ IsMonthDay day) := by
  rw [checkMonthDays]
  split
  · rename_i valid
    constructor
    · intro checked
      cases checked
    · rintro ⟨_, rfl | ⟨day, member, outOfRange⟩⟩
      · exact (valid.1 rfl).elim
      · exact (outOfRange (valid.2 day member)).elim
  · rename_i invalid
    rw [Except.error.injEq, eq_comm, iff_self_and]
    intro _
    by_contra noFault
    rw [not_or] at noFault
    refine invalid ⟨noFault.1, fun day member => ?_⟩
    by_contra outOfRange
    exact noFault.2 ⟨day, member, outOfRange⟩

/-- Days that pass their own check pass it again as those of a rule, which then lacks months. -/
theorem Monthly.ofDaysAndMonths_eq_error_iff
    (checked : checkMonthDays days = .ok ()) :
    Monthly.ofDaysAndMonths days months = .error error ↔
      error = .month ∧ ∃ month ∈ months, ¬ IsMonth month := by
  obtain ⟨nonempty, range⟩ := checkMonthDays_eq_ok_iff.mp checked
  have validDays :
      (IntegerSet.ofList days).toList ≠ [] ∧
        ∀ day ∈ (IntegerSet.ofList days).toList, IsMonthDay day :=
    ⟨IntegerSet.toList_ofList_ne_nil nonempty,
      fun day member => range day (IntegerSet.mem_ofList.mp member)⟩
  simp only [ofDaysAndMonths, dif_pos validDays]
  split
  · rename_i validMonths
    constructor
    · intro made
      cases made
    · rintro ⟨_, month, member, outOfRange⟩
      exact (outOfRange (validMonths month (IntegerSet.mem_ofList.mpr member))).elim
  · rename_i invalidMonths
    rw [Except.error.injEq, eq_comm, iff_self_and]
    intro _
    by_contra noFault
    refine invalidMonths fun month member => ?_
    by_contra outOfRange
    exact noFault ⟨month, IntegerSet.mem_ofList.mp member, outOfRange⟩

end Constructors

section Reading

variable {strict : Bool} {error : RuleError} {parameters others : List (List Char)}
variable {token : List Char}

theorem readDaily_eq_rule_error
    (read : readDaily parameters = .error (.rule error)) :
    error = .dayInterval := by
  match parameters, read with
  | [interval], read =>
      rw [readDaily, bind_eq_error_iff] at read
      rcases read with malformed | ⟨_, _, read⟩
      · exact readInteger_eq_rule_error malformed
      · rcases bind_eq_error_iff.mp read with made | ⟨_, _, impossible⟩
        · exact Daily.ofInterval_eq_error (Parsed.check_eq_rule_error made)
        · cases impossible
  | [], read =>
      cases read
      rfl
  | _ :: _ :: _, read =>
      cases read
      rfl

theorem readWeekly_eq_rule_error
    (read : readWeekly parameters = .error (.rule error)) :
    error = .weekday := by
  match parameters, read with
  | [weekdays], read =>
      rw [readWeekly, bind_eq_error_iff] at read
      rcases read with malformed | ⟨_, _, read⟩
      · exact readIntegers_eq_rule_error malformed
      · rcases bind_eq_error_iff.mp read with made | ⟨_, _, impossible⟩
        · exact Weekly.ofDays_eq_error (Parsed.check_eq_rule_error made)
        · cases impossible
  | [], read =>
      cases read
      rfl
  | _ :: _ :: _, read =>
      cases read
      rfl

theorem readYearly_eq_rule_error
    (read : readYearly strict parameters = .error (.rule error)) :
    error = .yearlyParameters := by
  rw [readYearly] at read
  split at read
  · cases read
    rfl
  · cases read

/-- Months that cannot be read are in the first token after the days. -/
theorem hasBadItem_of_readMonths
    (read : readMonths others = .error (.rule error)) :
    ∃ months surplus, others = months :: surplus ∧ HasBadItem IsMonth months := by
  cases others with
  | nil => cases read
  | cons months surplus =>
      exact ⟨months, surplus, rfl, hasBadItem_of_readIntegers read⟩

/-- A month out of range is in the first token after the days. -/
theorem hasBadItem_of_month
    {months : List Int}
    (read : readMonths others = .ok months)
    (outOfRange : ∃ month ∈ months, ¬ IsMonth month) :
    ∃ token surplus, others = token :: surplus ∧ HasBadItem IsMonth token := by
  cases others with
  | nil =>
      cases read
      obtain ⟨month, none, _⟩ := outOfRange
      cases none
  | cons token surplus =>
      rw [readMonths, listItems, readIntegers_trim_eq_ok_iff] at read
      exact ⟨token, surplus, rfl, (hasBadItem_iff read).mpr outOfRange⟩

/-- Without surplus tokens, the days of a monthly rule are at fault before its months. -/
theorem readMonthly_cons_eq_rule_error
    (fits : strict = true → others.length ≤ 1)
    (read : readMonthly strict (token :: others) = .error (.rule error)) :
    (error = .monthDay ∧ HasBadItem IsMonthDay token) ∨
      (error = .month ∧ ¬ HasBadItem IsMonthDay token ∧
        ∃ months surplus, others = months :: surplus ∧ HasBadItem IsMonth months) := by
  have noSurplus : ¬ (strict && decide (1 < others.length)) = true := by
    rw [Bool.and_eq_true, decide_eq_true_eq]
    exact fun surplus => Nat.not_lt.mpr (fits surplus.1) surplus.2
  rw [readMonthly, if_neg noSurplus, bind_eq_error_iff] at read
  rcases read with malformed | ⟨days, daysRead, read⟩
  · exact Or.inl ⟨readIntegers_eq_rule_error malformed, hasBadItem_of_readIntegers malformed⟩
  rw [listItems, readIntegers_trim_eq_ok_iff] at daysRead
  rcases bind_eq_error_iff.mp read with refused | ⟨_, accepted, read⟩
  · obtain ⟨isMonthDay, none | outOfRange⟩ :=
      checkMonthDays_eq_error_iff.mp (Parsed.check_eq_rule_error refused)
    · subst none
      exact (Text.splitOn_ne_nil ',' token (List.forall₂_nil_right_iff.mp daysRead)).elim
    · exact Or.inl ⟨isMonthDay, (hasBadItem_iff daysRead).mpr outOfRange⟩
  rw [Parsed.check_eq_ok_iff] at accepted
  have daysGood : ¬ HasBadItem IsMonthDay token := by
    rw [hasBadItem_iff daysRead]
    rintro ⟨day, member, outOfRange⟩
    exact outOfRange ((checkMonthDays_eq_ok_iff.mp accepted).2 day member)
  rcases bind_eq_error_iff.mp read with malformed | ⟨months, monthsRead, read⟩
  · exact Or.inr ⟨readMonths_eq_rule_error malformed, daysGood,
      hasBadItem_of_readMonths malformed⟩
  rcases bind_eq_error_iff.mp read with made | ⟨_, _, impossible⟩
  · obtain ⟨isMonth, outOfRange⟩ :=
      (Monthly.ofDaysAndMonths_eq_error_iff accepted).mp (Parsed.check_eq_rule_error made)
    exact Or.inr ⟨isMonth, daysGood, hasBadItem_of_month monthsRead outOfRange⟩
  · cases impossible

/-- Strictly read, a monthly rule with surplus tokens is at fault before its days are read. -/
theorem readMonthly_surplus
    (surplus : 1 < others.length) :
    readMonthly true (token :: others) = .error (.rule .monthlySurplus) := by
  rw [readMonthly, if_pos (by simp [surplus])]

/-- Behind the letter of a rule, the fault is one of the rule. -/
theorem readTokens_letter_eq_rule_error
    {letter : Char}
    (ofRule : letter ∈ ['d', 'y', 'w', 'm'])
    (read : readTokens strict ([letter] :: parameters) = .error (.rule error)) :
    error ≠ .empty ∧ error ≠ .unsupportedKind := by
  have isOther {given : RuleError} (same : error = given)
      (other : given ≠ .empty ∧ given ≠ .unsupportedKind) :
      error ≠ .empty ∧ error ≠ .unsupportedKind :=
    same ▸ other
  simp only [List.mem_cons, List.not_mem_nil, or_false] at ofRule
  rcases ofRule with rfl | rfl | rfl | rfl
  · exact isOther (readDaily_eq_rule_error read) (by decide)
  · exact isOther (readYearly_eq_rule_error read) (by decide)
  · exact isOther (readWeekly_eq_rule_error read) (by decide)
  · cases parameters with
    | nil =>
        cases read
        decide
    | cons token others =>
        by_cases fits : strict = true → others.length ≤ 1
        · rcases readMonthly_cons_eq_rule_error fits read with ⟨same, _⟩ | ⟨same, _⟩
          · exact isOther same (by decide)
          · exact isOther same (by decide)
        · rw [Classical.not_imp, Nat.not_le] at fits
          obtain ⟨rfl, surplus⟩ := fits
          rw [readTokens, readMonthly_surplus surplus] at read
          cases read
          decide

end Reading

namespace Rule

section Texts

variable {strict : Bool} {text : List Char} {error : RuleError}

theorem parse_of_not_hasRuleLetter
    (nonempty : text ≠ [])
    (noLetter : ¬ HasRuleLetter text) :
    Rule.parse strict text = .error (.rule .unsupportedKind) := by
  obtain ⟨c, rest, rfl⟩ := List.exists_cons_of_ne_nil nonempty
  rw [parse, List.isEmpty_cons, if_neg (by decide)]
  unfold readTokens
  split
  · rename_i cut
    exact (noLetter ⟨'d', by decide, _, cut⟩).elim
  · rename_i cut
    exact (noLetter ⟨'y', by decide, _, cut⟩).elim
  · rename_i cut
    exact (noLetter ⟨'w', by decide, _, cut⟩).elim
  · rename_i cut
    exact (noLetter ⟨'m', by decide, _, cut⟩).elim
  · rfl

/-- An error on the rule is of the kind of the first fault of the text. -/
theorem isFirstFault_of_parse
    (rejected : Rule.parse strict text = .error (.rule error)) :
    IsFirstFault strict text error.kind := by
  have ofLetter {letter : Char} {parameters : List (List Char)}
      (cut : Text.splitOn ' ' text = [letter] :: parameters) :
      readTokens strict ([letter] :: parameters) = .error (.rule error) :=
    (parse_of_splitOn cut).symm.trans rejected
  have behindLetter (hasLetter : HasRuleLetter text) :
      error ≠ .empty ∧ error ≠ .unsupportedKind := by
    obtain ⟨letter, ofRule, parameters, cut⟩ := hasLetter
    exact readTokens_letter_eq_rule_error ofRule (ofLetter cut)
  refine
    { empty := ?empty
      unsupported := ?unsupported
      daily := ?daily
      weekly := ?weekly
      yearly := ?yearly
      noDays := ?noDays
      surplus := ?surplus
      monthDay := ?monthDay
      month := ?month }
  case empty =>
    rw [RuleError.kind_eq_emptyRule_iff]
    constructor
    · rintro rfl
      by_contra nonempty
      by_cases hasLetter : HasRuleLetter text
      · exact (behindLetter hasLetter).1 rfl
      · rw [parse_of_not_hasRuleLetter nonempty hasLetter] at rejected
        cases rejected
    · rintro rfl
      cases rejected
      rfl
  case unsupported =>
    intro nonempty
    rw [RuleError.kind_eq_unsupportedRuleKind_iff]
    constructor
    · intro isUnsupported hasLetter
      exact (behindLetter hasLetter).2 isUnsupported
    · intro noLetter
      rw [parse_of_not_hasRuleLetter nonempty noLetter] at rejected
      cases rejected
      rfl
  case daily =>
    intro parameters cut
    rw [readDaily_eq_rule_error (ofLetter cut)]
    rfl
  case weekly =>
    intro parameters cut
    rw [readWeekly_eq_rule_error (ofLetter cut)]
    rfl
  case yearly =>
    intro parameters cut
    rw [readYearly_eq_rule_error (ofLetter cut)]
    rfl
  case noDays =>
    intro cut
    cases ofLetter cut
    rfl
  case surplus =>
    rintro days others cut rfl surplus
    have refused := ofLetter cut
    rw [readTokens, readMonthly_surplus surplus] at refused
    cases refused
    rfl
  case monthDay =>
    intro days others cut fits bad
    rcases readMonthly_cons_eq_rule_error fits (ofLetter cut) with ⟨rfl, _⟩ | ⟨_, good, _⟩
    · rfl
    · exact (good bad).elim
  case month =>
    intro days others cut fits good
    rcases readMonthly_cons_eq_rule_error fits (ofLetter cut) with ⟨_, bad⟩ | ⟨rfl, _, badMonths⟩
    · exact (good bad).elim
    · exact ⟨rfl, badMonths⟩

/-- A text without oversized items is rejected for an error on the rule only. -/
theorem exists_rule_error_of_parse
    {failure : ParseFailure}
    (noneOversized : ¬ HasOversizedItem text)
    (rejected : Rule.parse strict text = .error failure) :
    ∃ error, failure = .rule error := by
  cases failure with
  | rule error => exact ⟨error, rfl⟩
  | oversized number =>
      exact (noneOversized (parse_eq_oversized_iff.mp rejected).hasOversizedItem).elim

end Texts

/--
A text that is rejected, and has no oversized item, is rejected for the first of its faults;
this gives every text that is rejected as a rule exactly one kind of failure.  The days of a
monthly rule are checked again when the rule is made, but after they have passed once, only
its months can still be refused.
-/
theorem parse_rejects_firstFault
    (strict : Bool)
    (text : List Char) :
    (¬ HasOversizedItem text →
        ∀ failure, Rule.parse strict text = .error failure →
          ∃ error, failure = .rule error ∧ IsFirstFault strict text error.kind) ∧
      (∀ error, Rule.parse strict text = .error (.rule error) →
        ∀ kind, IsFirstFault strict text kind ↔ kind = error.kind) ∧
      (∀ days, checkMonthDays days = .ok () →
        ∀ months error, Monthly.ofDaysAndMonths days months = .error error ↔
          error = .month ∧ ∃ month ∈ months, ¬ IsMonth month) := by
  refine ⟨?rejected, ?oneKind, ?checkedAgain⟩
  case rejected =>
    intro noneOversized failure rejected
    obtain ⟨error, rfl⟩ := exists_rule_error_of_parse noneOversized rejected
    exact ⟨error, rfl, isFirstFault_of_parse rejected⟩
  case oneKind =>
    intro error rejected kind
    have first := isFirstFault_of_parse rejected
    constructor
    · intro another
      exact another.unique first
    · rintro rfl
      exact first
  case checkedAgain =>
    intro days checked months error
    exact Monthly.ofDaysAndMonths_eq_error_iff checked

/--
There is no day 0 and no month 13, and the last token is one too many.  A lenient reading
reports the day, a strict one the tokens.
-/
theorem parse_rejects_firstFault_day :
    ¬ HasOversizedItem "m 0 13 x".toList ∧
      (Rule.parse false "m 0 13 x".toList = .error (.rule .monthDay) ∧
        IsFirstFault false "m 0 13 x".toList .invalidMonthDay) ∧
      (Rule.parse true "m 0 13 x".toList = .error (.rule .monthlySurplus) ∧
        IsFirstFault true "m 0 13 x".toList .invalidRule) := by
  have noneOversized : ¬ HasOversizedItem "m 0 13 x".toList :=
    not_hasOversizedItem_of_length_le (by decide)
  have lenient : Rule.parse false "m 0 13 x".toList = .error (.rule .monthDay) := rfl
  have strict : Rule.parse true "m 0 13 x".toList = .error (.rule .monthlySurplus) := rfl
  obtain ⟨_, ofDay, dayFirst⟩ :=
    (parse_rejects_firstFault false "m 0 13 x".toList).1 noneOversized _ lenient
  obtain ⟨_, ofTokens, tokensFirst⟩ :=
    (parse_rejects_firstFault true "m 0 13 x".toList).1 noneOversized _ strict
  cases ofDay
  cases ofTokens
  exact ⟨noneOversized, ⟨lenient, dayFirst⟩, strict, tokensFirst⟩

end Rule

end Recurrence
