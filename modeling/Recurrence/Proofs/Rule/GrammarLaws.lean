import Mathlib.Data.List.Sort
import Recurrence.Proofs.Text.Numeral

namespace Recurrence

/-!
# Laws of the grammar

In a rule text the order and the repetition of list items do not matter, and every
space counts: what a stray space leaves empty is no item, so such a space can only
stand among surplus tokens.  Texts without oversized items have the same rules
whether or not integers must be short.
-/

namespace IntegerSet

/-- Sets with the same members are equal. -/
theorem ext_of_mem
    {set other : IntegerSet}
    (same : ∀ member, member ∈ set ↔ member ∈ other) :
    set = other := by
  cases set with
  | mk numbers ascending =>
      cases other with
      | mk others othersAscending =>
          have sameLists : numbers = others := ascending.eq_of_mem_iff othersAscending same
          simp only [sameLists]

/-- The set of a list depends on the members of the list alone. -/
theorem ofList_eq_of_mem_iff
    {numbers others : List Int}
    (same : ∀ member, member ∈ numbers ↔ member ∈ others) :
    ofList numbers = ofList others := by
  apply ext_of_mem
  intro member
  rw [mem_ofList, mem_ofList, same]

end IntegerSet

section Pointwise

variable {α β : Type} {reads otherReads : α → β → Prop} {items : List α} {values : List β}

/-- Every item of a list that is read has a value. -/
theorem exists_of_forall₂
    (readings : List.Forall₂ reads items values)
    {item : α}
    (member : item ∈ items) :
    ∃ value, reads item value := by
  induction readings with
  | nil => cases member
  | cons reading _ inductionHypothesis =>
      rcases List.mem_cons.mp member with rfl | inRest
      · exact ⟨_, reading⟩
      · exact inductionHypothesis inRest

/-- Items that can all be read have values. -/
theorem exists_forall₂
    (each : ∀ item ∈ items, ∃ value, reads item value) :
    ∃ values, List.Forall₂ reads items values := by
  induction items with
  | nil => exact ⟨[], .nil⟩
  | cons item items inductionHypothesis =>
      obtain ⟨value, reading⟩ := each item List.mem_cons_self
      obtain ⟨values, readings⟩ :=
        inductionHypothesis fun member inside => each member (List.mem_cons_of_mem item inside)
      exact ⟨value :: values, .cons reading readings⟩

/-- Items that also have readings of another kind are read in that way. -/
theorem forall₂_imp_of_mem
    (readings : List.Forall₂ reads items values)
    (stronger : ∀ item ∈ items, ∀ value, reads item value → otherReads item value) :
    List.Forall₂ otherReads items values := by
  induction readings with
  | nil => exact .nil
  | cons reading _ inductionHypothesis =>
      refine .cons (stronger _ List.mem_cons_self _ reading) ?_
      exact inductionHypothesis fun item inside => stronger item (List.mem_cons_of_mem _ inside)

end Pointwise

section Readings

variable {reads : List Char → Int → Prop} {items : List (List Char)} {values : List Int}

/-- A text is read as one value at most. -/
def ReadsUniquely (reads : List Char → Int → Prop) : Prop :=
  ∀ item value another, reads item value → reads item another → value = another

theorem readsUniquely_isShortInteger :
    ReadsUniquely Text.IsShortInteger :=
  fun _ _ _ reading another => reading.isInteger.unique another.isInteger

theorem ReadsUniquely.trimmed
    (unique : ReadsUniquely reads) :
    ReadsUniquely (trimmed reads) :=
  fun item => unique (Text.trim item)

/-- The values read are those that some item has. -/
theorem mem_iff_of_forall₂
    (unique : ReadsUniquely reads)
    (readings : List.Forall₂ reads items values)
    {value : Int} :
    value ∈ values ↔ ∃ item ∈ items, reads item value := by
  induction readings with
  | nil => simp
  | cons reading _ inductionHypothesis =>
      simp only [List.mem_cons, inductionHypothesis, exists_eq_or_imp]
      constructor
      · rintro (rfl | inRest)
        · exact Or.inl reading
        · exact Or.inr inRest
      · rintro (another | inRest)
        · exact Or.inl (unique _ _ _ another reading)
        · exact Or.inr inRest

end Readings

namespace Lists

variable {reads otherReads : List Char → Int → Prop} {IsAllowed : Int → Prop}
variable {token other : List Char} {values : List Int}

/-- A list whose items have readings of another kind is a list of that kind. -/
theorem imp
    (listed : Lists reads IsAllowed token values)
    (stronger :
      ∀ item ∈ Text.splitOn ',' token, ∀ value, reads item value → otherReads item value) :
    Lists otherReads IsAllowed token values :=
  ⟨forall₂_imp_of_mem listed.items stronger, listed.allowed⟩

/-- The order and the repetition of the items of a list do not change its set of values. -/
theorem of_sameItems
    (unique : ReadsUniquely reads)
    (same : SameItems token other)
    (listed : Lists reads IsAllowed token values) :
    ∃ others, Lists reads IsAllowed other others ∧
      IntegerSet.ofList values = IntegerSet.ofList others := by
  have readable : ∀ item ∈ Text.splitOn ',' other, ∃ value, reads item value :=
    fun item inside => exists_of_forall₂ listed.items ((same item).mpr inside)
  obtain ⟨others, readings⟩ := exists_forall₂ readable
  have sameValues : ∀ value, value ∈ values ↔ value ∈ others := by
    intro value
    rw [mem_iff_of_forall₂ unique listed.items, mem_iff_of_forall₂ unique readings]
    simp only [same _]
  refine ⟨others, ⟨readings, ?_⟩, IntegerSet.ofList_eq_of_mem_iff sameValues⟩
  exact fun value inside => listed.allowed value ((sameValues value).mpr inside)

/-- Nothing is no list. -/
theorem token_ne_nil
    (noEmptyItem : ∀ value, ¬ reads [] value)
    (listed : Lists reads IsAllowed token values) :
    token ≠ [] := by
  rintro rfl
  obtain ⟨value, reading⟩ := exists_of_forall₂ listed.items (List.mem_singleton.mpr rfl)
  exact noEmptyItem value reading

end Lists

theorem SameLists.symm
    {text other : List Char}
    (same : SameLists text other) :
    SameLists other text := by
  obtain ⟨letter, lists, otherLists, notDaily, tokens, otherTokens, sameItems⟩ := same
  refine ⟨letter, otherLists, lists, notDaily, otherTokens, tokens, sameItems.flip.imp ?_⟩
  exact fun _ _ same item => (same item).symm

section Tokens

variable {reads otherReads : List Char → Int → Prop} {strict : Bool}
variable {tokens : List (List Char)} {rule : Rule}

namespace Rule.Grammar

/-- Tokens describe the same rule with readings of another kind, if all their parts have them. -/
theorem imp
    (interval : ∀ token ∈ tokens, ∀ value, reads token value → otherReads token value)
    (item : ∀ token ∈ tokens, ∀ item ∈ Text.splitOn ',' token, ∀ value,
      reads item value → otherReads item value)
    (trimmedItem : ∀ token ∈ tokens, ∀ item ∈ Text.splitOn ',' token, ∀ value,
      trimmed reads item value → trimmed otherReads item value)
    (described : Rule.Grammar reads strict tokens rule) :
    Rule.Grammar otherReads strict tokens rule := by
  cases described with
  | daily reading range => exact .daily (interval _ (by simp) _ reading) range
  | yearly ignored => exact .yearly ignored
  | weekly listed => exact .weekly (listed.imp (item _ (by simp)))
  | everyMonth listed => exact .everyMonth (listed.imp (trimmedItem _ (by simp)))
  | someMonths listedDays listedMonths ignored =>
      exact .someMonths (listedDays.imp (trimmedItem _ (by simp)))
        (listedMonths.imp (trimmedItem _ (by simp))) ignored

/-- Tokens without oversized items describe the same rules with short and with all integers. -/
theorem isShortInteger_iff
    (fits : ∀ token ∈ tokens, ∀ item ∈ Text.splitOn ',' token,
      ∀ number, ¬ Text.IsOversized (Text.trim item) number) :
    Rule.Grammar Text.IsShortInteger strict tokens rule ↔
      Rule.Grammar Text.IsInteger strict tokens rule := by
  constructor
  · apply imp
    · exact fun _ _ _ short => short.isInteger
    · exact fun _ _ _ _ _ short => short.isInteger
    · exact fun _ _ _ _ _ short => Text.IsShortInteger.isInteger short
  · apply imp
    · intro token listed value integer
      refine integer.isShortInteger fun number => ?_
      have alone := Text.splitOn_eq_singleton integer.comma_not_mem
      rw [← integer.trim_eq]
      exact fits token listed token (alone ▸ List.mem_singleton.mpr rfl) number
    · intro token listed item inside value integer
      refine integer.isShortInteger fun number => ?_
      rw [← integer.trim_eq]
      exact fits token listed item inside number
    · exact fun token listed item inside _ integer =>
        Text.IsInteger.isShortInteger integer (fits token listed item inside)

/-- The order and the repetition of list items do not change the rule described. -/
theorem of_sameItems
    (unique : ReadsUniquely reads)
    {letter : List Char}
    {lists otherLists : List (List Char)}
    (notDaily : letter ≠ ['d'])
    (same : List.Forall₂ SameItems lists otherLists)
    (described : Rule.Grammar reads strict (letter :: lists) rule) :
    Rule.Grammar reads strict (letter :: otherLists) rule := by
  cases described with
  | daily => exact absurd rfl notDaily
  | yearly ignored =>
      refine .yearly fun isStrict => ?_
      rw [ignored isStrict] at same
      exact List.forall₂_nil_left_iff.mp same
  | weekly listed =>
      cases same with
      | cons sameDays none =>
          cases none
          obtain ⟨days, otherListed, sameSet⟩ := listed.of_sameItems unique sameDays
          simp only [Weekly.ofValues, sameSet]
          exact .weekly otherListed
  | everyMonth listed =>
      cases same with
      | cons sameDays none =>
          cases none
          obtain ⟨days, otherListed, sameSet⟩ := listed.of_sameItems unique.trimmed sameDays
          simp only [Monthly.ofValues, sameSet]
          exact .everyMonth otherListed
  | someMonths listedDays listedMonths ignored =>
      cases same with
      | cons sameDays others =>
          cases others with
          | cons sameMonths surplus =>
              obtain ⟨days, otherDays, sameDaySet⟩ :=
                listedDays.of_sameItems unique.trimmed sameDays
              obtain ⟨months, otherMonths, sameMonthSet⟩ :=
                listedMonths.of_sameItems unique.trimmed sameMonths
              simp only [Monthly.ofValues, sameDaySet, sameMonthSet]
              refine .someMonths otherDays otherMonths fun isStrict => ?_
              rw [ignored isStrict] at surplus
              exact List.forall₂_nil_left_iff.mp surplus

/-- Empty tokens are surplus tokens, which only a lenient reading ignores. -/
theorem empty_token
    (noEmptyItem : ∀ value, ¬ reads [] value)
    (described : Rule.Grammar reads strict tokens rule)
    (empty : [] ∈ tokens) :
    strict = false ∧
      (rule = .yearly ∨ ∃ parameters, rule = .monthly parameters ∧ [] ∉ tokens.take 3) := by
  have noEmptyTrimmed : ∀ value, ¬ trimmed reads [] value := noEmptyItem
  cases described with
  | @daily interval days reading =>
      have given : interval ≠ [] := by
        rintro rfl
        exact noEmptyItem days reading
      simp [given] at empty
  | yearly ignored =>
      cases strict with
      | false => exact ⟨rfl, Or.inl rfl⟩
      | true => simp [ignored rfl] at empty
  | weekly listed => simp [listed.token_ne_nil noEmptyItem] at empty
  | everyMonth listed => simp [listed.token_ne_nil noEmptyTrimmed] at empty
  | someMonths listedDays listedMonths ignored =>
      have daysGiven := listedDays.token_ne_nil noEmptyTrimmed
      have monthsGiven := listedMonths.token_ne_nil noEmptyTrimmed
      cases strict with
      | false => exact ⟨rfl, Or.inr ⟨_, rfl, by simp [daysGiven, monthsGiven]⟩⟩
      | true => simp [ignored rfl, daysGiven, monthsGiven] at empty

end Rule.Grammar

end Tokens

end Recurrence
