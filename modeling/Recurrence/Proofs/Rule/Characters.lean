import Mathlib.Data.List.TakeWhile
import Recurrence.Proofs.Rule.Acceptance
import Recurrence.Proofs.Rule.Strictness
import Recurrence.Proofs.Text.IntegerText

namespace Recurrence

/-!
# The characters of rule texts

A strict reading looks at the whole of a text.  So a text that it accepts is made of the letters
of rules, of integers, of commas and of white space.  A lenient reading accepts any characters in
surplus tokens.
-/

namespace Text

variable {c : Char} {text : List Char}

theorem mem_dropWhile_of_fails
    {test : Char → Bool}
    (member : c ∈ text)
    (fails : test c = false) :
    c ∈ text.dropWhile test := by
  rw [← List.takeWhile_append_dropWhile (p := test) (l := text)] at member
  rcases List.mem_append.mp member with passed | left
  · exact absurd (List.mem_takeWhile_imp passed) (Bool.eq_false_iff.mp fails)
  · exact left

/-- Only white space is trimmed. -/
theorem mem_trim_of_dark
    (member : c ∈ text)
    (dark : isBlank c = false) :
    c ∈ trim text := by
  have inStart : c ∈ (trimStart text).reverse :=
    List.mem_reverse.mpr (mem_dropWhile_of_fails member dark)
  rw [trim, trimEnd, List.mem_reverse]
  exact mem_dropWhile_of_fails inStart dark

end Text

/-- The characters that rule texts need. -/
def IsRuleChar (c : Char) : Prop :=
  c ∈ ['d', 'y', 'w', 'm', ',', '+'] ∨ Text.IsIntegerChar c ∨ Text.isBlank c = true

instance (c : Char) : Decidable (IsRuleChar c) :=
  inferInstanceAs (Decidable (_ ∨ _))

/-- A text of such characters. -/
def IsRuleText (text : List Char) : Prop :=
  ∀ c ∈ text, IsRuleChar c

section Tokens

variable {token item : List Char} {tokens : List (List Char)} {value : Int}

theorem isRuleText_of_isShortInteger
    (integer : Text.IsShortInteger item value) :
    IsRuleText item := by
  obtain ⟨digits, written, _⟩ := integer
  intro c member
  rcases written.eq_plus_or_isIntegerChar member with rfl | inInteger
  · exact Or.inl (by decide)
  · exact Or.inr (Or.inl inInteger)

theorem isRuleText_of_trimmed
    (integer : trimmed Text.IsShortInteger item value) :
    IsRuleText item := by
  intro c member
  cases dark : Text.isBlank c with
  | true => exact Or.inr (Or.inr dark)
  | false => exact isRuleText_of_isShortInteger integer c (Text.mem_trim_of_dark member dark)

/-- A list token has commas besides the characters of its items. -/
theorem isRuleText_of_lists
    {reads : List Char → Int → Prop}
    {IsAllowed : Int → Prop}
    {values : List Int}
    (ofItem : ∀ {item value}, reads item value → IsRuleText item)
    (listed : Lists reads IsAllowed token values) :
    IsRuleText token := by
  intro c member
  rw [← Text.join_splitOn ',' token] at member
  rcases Text.mem_join member with rfl | ⟨item, inToken, inItem⟩
  · exact Or.inl (by decide)
  · obtain ⟨value, reading⟩ := exists_of_forall₂ listed.items inToken
    exact ofItem reading c inItem

theorem isRuleText_singleton
    {letter : Char}
    (isLetter : letter ∈ ['d', 'y', 'w', 'm', ',', '+']) :
    IsRuleText [letter] := by
  intro c member
  rw [List.mem_singleton.mp member]
  exact Or.inl isLetter

/-- Strictly read tokens have no other characters than rule texts need. -/
theorem Rule.Grammar.isRuleText
    {rule : Rule}
    (described : Grammar Text.IsShortInteger true tokens rule) :
    ∀ token ∈ tokens, IsRuleText token := by
  cases described with
  | daily reading range =>
      refine List.forall_mem_cons.mpr ⟨isRuleText_singleton (by decide), ?_⟩
      exact List.forall_mem_singleton.mpr (isRuleText_of_isShortInteger reading)
  | yearly ignored =>
      rw [ignored rfl, List.forall_mem_singleton]
      exact isRuleText_singleton (by decide)
  | weekly listed =>
      refine List.forall_mem_cons.mpr ⟨isRuleText_singleton (by decide), ?_⟩
      exact List.forall_mem_singleton.mpr (isRuleText_of_lists isRuleText_of_isShortInteger listed)
  | everyMonth listed =>
      refine List.forall_mem_cons.mpr ⟨isRuleText_singleton (by decide), ?_⟩
      exact List.forall_mem_singleton.mpr (isRuleText_of_lists isRuleText_of_trimmed listed)
  | someMonths listedDays listedMonths ignored =>
      rw [ignored rfl]
      refine List.forall_mem_cons.mpr ⟨isRuleText_singleton (by decide), ?_⟩
      refine List.forall_mem_cons.mpr ⟨isRuleText_of_lists isRuleText_of_trimmed listedDays, ?_⟩
      exact List.forall_mem_singleton.mpr (isRuleText_of_lists isRuleText_of_trimmed listedMonths)

end Tokens

namespace Rule

variable {text : List Char} {rule : Rule}

theorem isRuleText_of_parse_strict
    (read : Rule.parse true text = .ok rule) :
    IsRuleText text := by
  have described := parse_eq_ok_iff_short.mp read
  intro c member
  rw [← Text.join_splitOn ' ' text] at member
  rcases Text.mem_join member with rfl | ⟨token, inText, inToken⟩
  · exact Or.inr (Or.inr rfl)
  · exact described.isRuleText token inText c inToken

/-- Where there are no surplus tokens, a lenient reading looks at the whole text as well. -/
theorem isRuleText_of_parse
    {strict : Bool}
    (read : Rule.parse strict text = .ok rule)
    (noSurplus : strict = true ∨ ¬ HasSurplus (Text.splitOn ' ' text)) :
    IsRuleText text := by
  cases strict with
  | true => exact isRuleText_of_parse_strict read
  | false =>
      have noSurplus := noSurplus.resolve_left Bool.false_ne_true
      rw [← (parse_strict_eq_lenient_iff text).mpr noSurplus] at read
      exact isRuleText_of_parse_strict read

end Rule

end Recurrence
