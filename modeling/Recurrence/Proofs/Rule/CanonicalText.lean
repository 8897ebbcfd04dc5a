import Recurrence.Proofs.Text.IntegerText
import Recurrence.Rule.Parser

namespace Recurrence

/-!
# Canonical rule texts

The text of a rule is read back as that rule, by strict and by lenient reading.
So different rules have different texts, and the text of the rule that some text
describes is the one canonical text of all that describe it.

A rule text has three layers: tokens between spaces, items between commas, and
integers.  Each layer is undone on its own, because the characters of a lower one
are never the separator of a higher one.
-/

/-- An integer has at most three digits, as all numbers of a rule do. -/
def HasThreeDigits (integer : Int) : Prop :=
  integer.natAbs < 1000

/-- Integer texts are read back one by one. -/
theorem readIntegers_map_integerText
    (error : RuleError)
    {integers : List Int}
    (short : ∀ integer ∈ integers, HasThreeDigits integer) :
    readIntegers error (integers.map Text.integerText) = .ok integers := by
  induction integers with
  | nil => rfl
  | cons first rest inductionHypothesis =>
      have firstShort := short first List.mem_cons_self
      have restRead :=
        inductionHypothesis fun integer member =>
          short integer (List.mem_cons_of_mem first member)
      have firstRead :
          readInteger error (Text.integerText first) = .ok first := by
        rw [readInteger,
          Text.Numeral.ofText_integerText (Text.length_naturalText_le_maxDigits firstShort)]
      rw [List.map_cons, readIntegers, firstRead, restRead]
      rfl

theorem map_trim_integerTexts
    (integers : List Int) :
    (integers.map Text.integerText).map Text.trim = integers.map Text.integerText := by
  rw [List.map_map]
  exact List.map_congr_left fun integer _ => Text.trim_integerText integer

namespace IntegerSet

/-- The items of the text of a set are the texts of its members. -/
theorem listItems_listText
    {set : IntegerSet}
    (nonempty : set.toList ≠ []) :
    listItems set.listText = set.toList.map Text.integerText := by
  refine Text.splitOn_join (by simpa using nonempty) ?_
  intro item listed
  obtain ⟨integer, _, rfl⟩ := List.mem_map.mp listed
  exact Text.not_mem_integerText (by decide) integer

/-- The text of a set holds no space. -/
theorem space_not_mem_listText
    (set : IntegerSet) :
    ' ' ∉ set.listText := by
  intro member
  rcases Text.mem_join member with isComma | ⟨item, listed, inItem⟩
  · exact absurd isComma (by decide)
  · obtain ⟨integer, _, rfl⟩ := List.mem_map.mp listed
    exact Text.not_mem_integerText (by decide) integer inItem

end IntegerSet

theorem Daily.ofInterval_interval
    (rule : Daily) :
    Daily.ofInterval rule.interval = .ok rule := by
  rw [ofInterval, dif_pos rule.interval_range]

theorem Weekly.ofDays_weekdays
    (rule : Weekly) :
    Weekly.ofDays rule.weekdays.toList = .ok rule := by
  simp only [ofDays, IntegerSet.ofList_toList]
  rw [dif_pos ⟨rule.weekdays_ne_nil, rule.weekdays_range⟩]

theorem Monthly.ofDaysAndMonths_toList
    (rule : Monthly) :
    Monthly.ofDaysAndMonths rule.days.toList rule.months.toList = .ok rule := by
  simp only [ofDaysAndMonths, IntegerSet.ofList_toList]
  rw [dif_pos ⟨rule.days_ne_nil, rule.days_range⟩, dif_pos rule.months_range]

/-- The days of a monthly rule pass the check that they get before the months are read. -/
theorem Monthly.checkMonthDays_days
    (rule : Monthly) :
    checkMonthDays rule.days.toList = .ok () := by
  rw [checkMonthDays, if_pos ⟨rule.days_ne_nil, rule.days_range⟩]

/-- The text of a set of short integers is read as its members. -/
theorem readIntegers_listText
    (error : RuleError)
    {set : IntegerSet}
    (nonempty : set.toList ≠ [])
    (short : ∀ integer ∈ set.toList, HasThreeDigits integer) :
    readIntegers error (listItems set.listText) = .ok set.toList := by
  rw [IntegerSet.listItems_listText nonempty, readIntegers_map_integerText error short]

/-- It is read as its members also if its items are trimmed before. -/
theorem readIntegers_trim_listText
    (error : RuleError)
    {set : IntegerSet}
    (nonempty : set.toList ≠ [])
    (short : ∀ integer ∈ set.toList, HasThreeDigits integer) :
    readIntegers error ((listItems set.listText).map Text.trim) = .ok set.toList := by
  rw [IntegerSet.listItems_listText nonempty, map_trim_integerTexts,
    readIntegers_map_integerText error short]

section ReadParameters

variable (strict : Bool)

theorem readDaily_of_daily
    (rule : Daily) :
    readDaily [Text.integerText rule.interval] = .ok (.daily rule) := by
  obtain ⟨positive, atMost⟩ := rule.interval_range
  have short : rule.interval.natAbs < 1000 := by omega
  rw [readDaily, readInteger,
    Text.Numeral.ofText_integerText (Text.length_naturalText_le_maxDigits short)]
  simp only [Parsed.check_ok, rule.ofInterval_interval, bind, Except.bind,
    pure, Except.pure]

theorem readWeekly_of_weekly
    (rule : Weekly) :
    readWeekly [rule.weekdays.listText] = .ok (.weekly rule) := by
  have short : ∀ day ∈ rule.weekdays.toList, HasThreeDigits day := by
    intro day member
    obtain ⟨positive, atMost⟩ := rule.weekdays_range day member
    show day.natAbs < 1000
    omega
  rw [readWeekly, readIntegers_listText _ rule.weekdays_ne_nil short]
  simp only [Parsed.check_ok, rule.ofDays_weekdays, bind, Except.bind,
    pure, Except.pure]

/-- The days and months of a monthly rule are read back. -/
theorem readMonthly_of_monthly
    (rule : Monthly)
    {others : List (List Char)}
    (atMostOne : others.length ≤ 1)
    (monthsRead : readMonths others = .ok rule.months.toList) :
    readMonthly strict (rule.days.listText :: others) = .ok (.monthly rule) := by
  have short : ∀ day ∈ rule.days.toList, HasThreeDigits day := by
    intro day member
    obtain ⟨_, atLeast, atMost⟩ := rule.days_range day member
    show day.natAbs < 1000
    omega
  have noSurplus : (strict && decide (1 < others.length)) = false := by
    simp [Nat.not_lt.mpr atMostOne]
  rw [readMonthly, if_neg (by simpa using noSurplus),
    readIntegers_trim_listText _ rule.days_ne_nil short]
  simp only [monthsRead, Parsed.check_ok, rule.checkMonthDays_days, rule.ofDaysAndMonths_toList,
    bind, Except.bind, pure, Except.pure]

/-- The text of the months of a monthly rule is read back. -/
theorem readMonths_of_monthly
    {rule : Monthly}
    (restricted : rule.months.isEmpty = false) :
    readMonths [rule.months.listText] = .ok rule.months.toList := by
  have nonempty : rule.months.toList ≠ [] := by
    simpa [IntegerSet.isEmpty] using restricted
  have short : ∀ month ∈ rule.months.toList, HasThreeDigits month := by
    intro month member
    obtain ⟨positive, atMost⟩ := rule.months_range month member
    show month.natAbs < 1000
    omega
  rw [readMonths, readIntegers_trim_listText _ nonempty short]

end ReadParameters

namespace Rule

/-- The tokens of a rule are read back. -/
theorem readTokens_toTokens
    (strict : Bool)
    (rule : Rule) :
    readTokens strict rule.toTokens = .ok rule := by
  cases rule with
  | daily parameters => exact readDaily_of_daily parameters
  | yearly =>
      cases strict with
      | false => rfl
      | true => rfl
  | weekly parameters => exact readWeekly_of_weekly parameters
  | monthly parameters =>
      cases unrestricted : parameters.months.isEmpty with
      | true =>
          have noMonths : parameters.months.toList = [] := by
            simpa [IntegerSet.isEmpty] using unrestricted
          simp only [toTokens, letter, unrestricted, ↓reduceIte, readTokens]
          exact readMonthly_of_monthly strict parameters (by decide) (noMonths ▸ rfl)
      | false =>
          simp only [toTokens, letter, unrestricted, Bool.false_eq_true, ↓reduceIte, readTokens]
          exact readMonthly_of_monthly strict parameters (by simp)
            (readMonths_of_monthly unrestricted)

/-- The tokens of a rule hold no space. -/
theorem space_not_mem_token
    {rule : Rule}
    {token : List Char}
    (listed : token ∈ rule.toTokens) :
    ' ' ∉ token := by
  rcases List.mem_cons.mp listed with isLetter | isParameter
  · rw [isLetter]
    cases rule <;> simp [letter]
  · cases rule with
    | daily parameters =>
        rw [List.mem_singleton.mp isParameter]
        exact Text.not_mem_integerText (by decide) parameters.interval
    | yearly => cases isParameter
    | weekly parameters =>
        rw [List.mem_singleton.mp isParameter]
        exact parameters.weekdays.space_not_mem_listText
    | monthly parameters =>
        simp only at isParameter
        split at isParameter
        · rw [List.mem_singleton.mp isParameter]
          exact parameters.days.space_not_mem_listText
        · rcases List.mem_cons.mp isParameter with isDays | isMonths
          · rw [isDays]
            exact parameters.days.space_not_mem_listText
          · rw [List.mem_singleton.mp isMonths]
            exact parameters.months.space_not_mem_listText

/-- The text of a rule is cut into its tokens. -/
theorem splitOn_toText
    (rule : Rule) :
    Text.splitOn ' ' rule.toText = rule.toTokens :=
  Text.splitOn_join (List.cons_ne_nil _ _) fun _ => space_not_mem_token

theorem toText_ne_nil
    (rule : Rule) :
    rule.toText ≠ [] := by
  intro empty
  have cut := rule.splitOn_toText
  rw [empty] at cut
  have noLetter := (List.cons.inj cut).1
  cases noLetter

/-- The text of a rule is read back as the rule. -/
theorem parse_toText
    (strict : Bool)
    (rule : Rule) :
    Rule.parse strict rule.toText = .ok rule := by
  have given : rule.toText.isEmpty = false := by
    simpa using rule.toText_ne_nil
  rw [parse, given, splitOn_toText, readTokens_toTokens]
  rfl

/-- Different rules have different texts. -/
theorem toText_injective
    {rule other : Rule}
    (sameText : rule.toText = other.toText) :
    rule = other := by
  have read := parse_toText false rule
  rw [sameText, parse_toText] at read
  exact (Except.ok.inj read).symm

/--
The text of a rule is its canonical text: strict and lenient reading give the rule
back, rules are equal exactly if their texts are, and whatever text is read as a
rule, the text of that rule is read in the same way.
-/
theorem toText_canonical
    (rule : Rule)
    (strict : Bool) :
    Rule.parse strict rule.toText = .ok rule ∧
      (∀ other : Rule, rule.toText = other.toText ↔ rule = other) ∧
      (∀ text, Rule.parse strict text = .ok rule →
        ∀ again, Rule.parse again rule.toText = Rule.parse strict text) := by
  refine ⟨rule.parse_toText strict, ?_, ?_⟩
  · intro other
    exact ⟨toText_injective, fun same => congrArg toText same⟩
  · intro text read again
    rw [parse_toText, read]

end Rule

end Recurrence
