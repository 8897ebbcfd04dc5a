import Recurrence.Rule.Parser

namespace Recurrence

/-!
# Strict and lenient reading

A yearly rule has no tokens after its letter, a monthly rule has two at most.  A strict
reading refuses any surplus, a lenient one never looks at it: it reads the text as a strict
reading reads what is left without the surplus, be that a rule or a fault.  On texts
without surplus tokens the two do the same.
-/

/-- Some tokens stand behind the last list that a yearly or a monthly rule can have. -/
inductive HasSurplus : List (List Char) → Prop where
  | yearly {surplus : List Char} {others : List (List Char)} :
      HasSurplus (['y'] :: surplus :: others)
  | monthly {days months surplus : List Char} {others : List (List Char)} :
      HasSurplus (['m'] :: days :: months :: surplus :: others)

/-- The tokens that a lenient reading looks at. -/
def withoutSurplus : List (List Char) → List (List Char)
  | ['y'] :: _ => [['y']]
  | ['m'] :: parameters => ['m'] :: parameters.take 2
  | tokens => tokens

section Faults

variable {given other : RuleError}

/-- Reading an integer finds no fault in the rule but the given one. -/
theorem readInteger_eq_rule_error
    {item : List Char}
    (read : readInteger given item = .error (.rule other)) :
    other = given := by
  rw [readInteger] at read
  split at read
  · cases read
    rfl
  · cases read
  · cases read

theorem readIntegers_eq_rule_error
    {items : List (List Char)}
    (read : readIntegers given items = .error (.rule other)) :
    other = given := by
  induction items with
  | nil => cases read
  | cons item items inductionHypothesis =>
      rw [readIntegers, bind_eq_error_iff] at read
      rcases read with first | ⟨_, _, rest⟩
      · exact readInteger_eq_rule_error first
      · rcases bind_eq_error_iff.mp rest with rest | ⟨_, _, impossible⟩
        · exact inductionHypothesis rest
        · cases impossible

theorem checkMonthDays_eq_error
    {days : List Int}
    (checked : checkMonthDays days = .error other) :
    other = .monthDay := by
  rw [checkMonthDays] at checked
  split at checked
  · cases checked
  · cases checked
    rfl

theorem Monthly.ofDaysAndMonths_eq_error
    {days months : List Int}
    (made : Monthly.ofDaysAndMonths days months = .error other) :
    other = .monthDay ∨ other = .month := by
  simp only [ofDaysAndMonths] at made
  split at made
  · split at made
    · cases made
    · cases made
      exact Or.inr rfl
  · cases made
    exact Or.inl rfl

theorem Parsed.check_eq_rule_error
    {result : Except RuleError α}
    (checked : Parsed.check result = .error (.rule other)) :
    result = .error other := by
  obtain ⟨cause, failed, same⟩ := mapError_eq_error_iff.mp checked
  cases same
  exact failed

theorem readMonths_eq_rule_error
    {lists : List (List Char)}
    (read : readMonths lists = .error (.rule other)) :
    other = .month := by
  cases lists with
  | nil => cases read
  | cons months surplus => exact readIntegers_eq_rule_error read

/-- A lenient reading finds fault with the days and the months of a monthly rule only. -/
theorem readMonthly_lenient_eq_rule_error
    {parameters : List (List Char)}
    (read : readMonthly false parameters = .error (.rule other)) :
    other = .monthDay ∨ other = .month := by
  cases parameters with
  | nil =>
      cases read
      exact Or.inl rfl
  | cons dayList others =>
      simp only [readMonthly, Bool.false_and, Bool.false_eq_true, ↓reduceIte,
        bind_eq_error_iff] at read
      rcases read with days | ⟨_, _, checked | ⟨_, _, months | ⟨_, _, made | ⟨_, _, impossible⟩⟩⟩⟩
      · exact Or.inl (readIntegers_eq_rule_error days)
      · exact Or.inl (checkMonthDays_eq_error (Parsed.check_eq_rule_error checked))
      · exact Or.inr (readMonths_eq_rule_error months)
      · exact Monthly.ofDaysAndMonths_eq_error (Parsed.check_eq_rule_error made)
      · cases impossible

end Faults

section Tokens

variable {tokens : List (List Char)}

/-- Months are read from the first of the tokens that follow the days. -/
theorem readMonths_take
    (others : List (List Char)) :
    readMonths (others.take 1) = readMonths others := by
  cases others with
  | nil => rfl
  | cons months surplus => rfl

/-- A lenient reading of a monthly rule is a strict one of its first two parameters. -/
theorem readMonthly_lenient
    (parameters : List (List Char)) :
    readMonthly false parameters = readMonthly true (parameters.take 2) := by
  cases parameters with
  | nil => rfl
  | cons dayList others =>
      have fits : ¬ 1 < (others.take 1).length := by
        rw [List.length_take]
        exact Nat.not_lt.mpr (Nat.min_le_left 1 others.length)
      simp only [List.take_succ_cons, readMonthly, Bool.false_and, Bool.true_and,
        Bool.false_eq_true, decide_eq_true_eq, fits, ↓reduceIte, readMonths_take]

/-- A lenient reading is a strict one of the tokens without their surplus. -/
theorem readTokens_lenient
    (tokens : List (List Char)) :
    readTokens false tokens = readTokens true (withoutSurplus tokens) := by
  unfold withoutSurplus
  split
  · rfl
  · exact readMonthly_lenient _
  · rename_i notYearly notMonthly
    unfold readTokens
    split
    · rfl
    · exact (notYearly _ rfl).elim
    · rfl
    · exact (notMonthly _ rfl).elim
    · rfl

/-- Tokens without surplus are all looked at. -/
theorem withoutSurplus_of_not_hasSurplus
    (noSurplus : ¬ HasSurplus tokens) :
    withoutSurplus tokens = tokens := by
  unfold withoutSurplus
  split
  · rename_i parameters
    cases parameters with
    | nil => rfl
    | cons surplus others => exact (noSurplus .yearly).elim
  · rename_i parameters
    match parameters with
    | [] => rfl
    | [_] => rfl
    | [_, _] => rfl
    | _ :: _ :: _ :: _ => exact (noSurplus .monthly).elim
  · rfl

/-- With surplus tokens, a strict reading refuses what a lenient one does not refuse so. -/
theorem readTokens_strict_ne_lenient
    (surplus : HasSurplus tokens) :
    readTokens true tokens ≠ readTokens false tokens := by
  cases surplus with
  | yearly =>
      intro same
      cases same
  | @monthly days months surplus others =>
      intro same
      have refused :
          readMonthly false (days :: months :: surplus :: others) =
            .error (.rule .monthlySurplus) :=
        same.symm
      rcases readMonthly_lenient_eq_rule_error refused with impossible | impossible
      · cases impossible
      · cases impossible

end Tokens

namespace Rule

variable {strict : Bool} {text : List Char} {letter : Char} {parameters : List (List Char)}

/-- A text that has a letter for its first token is read by its tokens. -/
theorem parse_of_splitOn
    (cut : Text.splitOn ' ' text = [letter] :: parameters) :
    Rule.parse strict text = readTokens strict ([letter] :: parameters) := by
  cases text with
  | nil => cases cut
  | cons c rest =>
      rw [parse, cut]
      rfl

/-- The tokens of a text, or some of the first of them, are read from the text they make. -/
theorem parse_join_take
    (cut : Text.splitOn ' ' text = [letter] :: parameters)
    (count : Nat) :
    Rule.parse strict (Text.join ' ' ([letter] :: parameters.take count)) =
      readTokens strict ([letter] :: parameters.take count) := by
  apply parse_of_splitOn
  apply Text.splitOn_join (List.cons_ne_nil _ _)
  intro token listed
  have inText : token ∈ Text.splitOn ' ' text := by
    rw [cut]
    rcases List.mem_cons.mp listed with isLetter | isParameter
    · exact isLetter ▸ List.mem_cons_self
    · exact List.mem_cons_of_mem _ (List.mem_of_mem_take isParameter)
  exact Text.separator_not_mem_of_mem_splitOn inText

/-- Strict and lenient reading part exactly at texts with surplus tokens. -/
theorem parse_strict_eq_lenient_iff
    (text : List Char) :
    Rule.parse true text = Rule.parse false text ↔ ¬ HasSurplus (Text.splitOn ' ' text) := by
  cases text with
  | nil => exact ⟨fun _ => nofun, fun _ => rfl⟩
  | cons c rest =>
      constructor
      · intro same surplus
        exact readTokens_strict_ne_lenient surplus same
      · intro noSurplus
        have lenient := readTokens_lenient (Text.splitOn ' ' (c :: rest))
        rw [withoutSurplus_of_not_hasSurplus noSurplus] at lenient
        exact lenient.symm

/--
Strict and lenient reading of a text give the same rule or the same error, except exactly
if a yearly rule has any token after its letter or a monthly rule more than two.  There a
strict reading refuses the rule as invalid, and a lenient one does what a strict one does
with the letter `y` alone, or with the first three tokens of the monthly rule.
-/
theorem parse_strict_refuses_surplus
    (text : List Char) :
    (Rule.parse true text = Rule.parse false text ↔ ¬ HasSurplus (Text.splitOn ' ' text)) ∧
      (∀ surplus others, Text.splitOn ' ' text = ['y'] :: surplus :: others →
        Rule.parse true text = .error (.rule .yearlyParameters) ∧
          Rule.parse false text = Rule.parse true ['y']) ∧
      (∀ days months surplus others,
        Text.splitOn ' ' text = ['m'] :: days :: months :: surplus :: others →
          Rule.parse true text = .error (.rule .monthlySurplus) ∧
            Rule.parse false text =
              Rule.parse true (Text.join ' ' [['m'], days, months])) ∧
      RuleError.yearlyParameters.kind = .invalidRule ∧
      RuleError.monthlySurplus.kind = .invalidRule := by
  refine ⟨parse_strict_eq_lenient_iff text, ?yearly, ?monthly, rfl, rfl⟩
  case yearly =>
    intro surplus others cut
    rw [parse_of_splitOn cut, parse_of_splitOn cut]
    exact ⟨rfl, rfl⟩
  case monthly =>
    intro days months surplus others cut
    have firstThree :
        Rule.parse true (Text.join ' ' [['m'], days, months]) =
          readTokens true [['m'], days, months] :=
      parse_join_take cut 2
    rw [parse_of_splitOn cut, parse_of_splitOn cut]
    exact ⟨rfl, (readTokens_lenient _).trans firstThree.symm⟩

/--
The empty token behind a trailing space is a surplus token.  A lenient reading that does not
look at the last token of `m 1 13 x` still finds that there is no month 13.
-/
theorem parse_strict_refuses_surplus_stray :
    (Text.splitOn ' ' "y ".toList = [['y'], []] ∧
        Rule.parse true "y ".toList = .error (.rule .yearlyParameters) ∧
        Rule.parse false "y ".toList = .ok .yearly) ∧
      (Text.splitOn ' ' "m 1 13 x".toList = [['m'], ['1'], ['1', '3'], ['x']] ∧
        Rule.parse true "m 1 13 x".toList = .error (.rule .monthlySurplus) ∧
        Rule.parse false "m 1 13 x".toList = .error (.rule .month)) ∧
      (¬ HasSurplus (Text.splitOn ' ' "m 1 13".toList) ∧
        Rule.parse true "m 1 13".toList = Rule.parse false "m 1 13".toList) := by
  refine ⟨?trailingSpace, ?noSuchMonth, ?noSurplus⟩
  case trailingSpace =>
    have cut : Text.splitOn ' ' "y ".toList = [['y'], []] := rfl
    obtain ⟨_, yearly, _⟩ := parse_strict_refuses_surplus "y ".toList
    obtain ⟨refused, lenient⟩ := yearly _ _ cut
    exact ⟨cut, refused, lenient.trans rfl⟩
  case noSuchMonth =>
    have cut :
        Text.splitOn ' ' "m 1 13 x".toList = [['m'], ['1'], ['1', '3'], ['x']] :=
      rfl
    obtain ⟨_, _, monthly, _⟩ := parse_strict_refuses_surplus "m 1 13 x".toList
    obtain ⟨refused, lenient⟩ := monthly _ _ _ _ cut
    exact ⟨cut, refused, lenient.trans rfl⟩
  case noSurplus =>
    have noSurplus : ¬ HasSurplus (Text.splitOn ' ' "m 1 13".toList) := nofun
    obtain ⟨sameOutcome, _⟩ := parse_strict_refuses_surplus "m 1 13".toList
    exact ⟨noSurplus, sameOutcome.mpr noSurplus⟩

end Rule

end Recurrence
