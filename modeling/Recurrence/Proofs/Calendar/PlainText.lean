import Recurrence.Proofs.Calendar.CompactPattern

namespace Recurrence

/-!
# Plain text in patterns

Plain text stands for itself in a pattern and is read where it stands.  Text without digits also
bounds the number before it: a year needs all its digits before such text, and a digit that is
left over is no part of it.
-/

/-- A character that stands for itself in a pattern: printed ASCII, but no percent sign. -/
def IsPlain (c : Char) : Prop :=
  ('!'.toNat ≤ c.toNat ∧ c.toNat ≤ '~'.toNat) ∧ c ≠ '%'

instance : DecidablePred IsPlain :=
  fun _ => inferInstanceAs (Decidable (_ ∧ _))

section PlainCharacters

variable {c digit : Char}

/-- What holds of all ASCII codes holds of all ASCII characters. -/
theorem forall_ascii
    {property : Char → Prop}
    (holds : ∀ code < 128, property (Char.ofNat code))
    (c : Char)
    (small : c.toNat < 128) :
    property c := by
  have atCode := holds c.toNat small
  rwa [Char.ofNat_toNat] at atCode

theorem IsPlain.small
    (plain : IsPlain c) :
    c.toNat < 128 :=
  Nat.lt_of_le_of_lt plain.1.2 (by decide)

theorem IsPlain.isBlank_eq_false
    (plain : IsPlain c) :
    Text.isBlank c = false := by
  have ofAscii : ∀ c : Char, c.toNat < 128 → IsPlain c → Text.isBlank c = false :=
    forall_ascii (by decide +kernel)
  exact ofAscii c plain.small plain

/-- Plain text that is no ASCII digit is no digit at all. -/
theorem IsPlain.value?_decimal
    (plain : IsPlain c)
    (notDigit : c.isDigit = false) :
    DigitClass.decimal.value? c = none := by
  have ofAscii :
      ∀ c : Char, c.toNat < 128 → c.isDigit = false → DigitClass.decimal.value? c = none :=
    forall_ascii (by decide +kernel)
  exact ofAscii c plain.small notDigit

/-- In ASCII only the digits have the case keys of digits. -/
theorem caseKey_between_iff :
    ∀ c : Char, c.toNat < 128 →
      ('0'.toNat ≤ Text.caseKey c ∧ Text.caseKey c ≤ '9'.toNat ↔ c.isDigit = true) :=
  forall_ascii (by decide +kernel)

/-- A digit does not pass for any other plain character. -/
theorem IsPlain.caseKey_ne
    (plain : IsPlain c)
    (notDigit : c.isDigit = false)
    (isDigit : digit.isDigit = true) :
    Text.caseKey digit ≠ Text.caseKey c := by
  have small : digit.toNat < 128 :=
    Nat.lt_of_le_of_lt (Char.isDigit_iff_toNat.mp isDigit).2 (by decide)
  intro same
  have ofDigit := (caseKey_between_iff digit small).mpr isDigit
  rw [same, caseKey_between_iff c plain.small, notDigit] at ofDigit
  cases ofDigit

end PlainCharacters

/-- A year of fewer digits than there are places is not read if no digit follows. -/
theorem DigitClass.readNumber?_decimal_few
    {digits rest : List Char}
    {places : Nat}
    (allDigits : Text.AllDigits digits)
    (few : digits.length < places)
    (noDigit : ∀ c ∈ rest.head?, decimal.value? c = none)
    (number : Nat) :
    readNumber? (List.replicate places decimal) (digits ++ rest) number = none := by
  induction digits generalizing places number with
  | nil =>
      obtain ⟨others, rfl⟩ := Nat.exists_eq_succ_of_ne_zero (Nat.ne_of_gt few)
      cases rest with
      | nil => rfl
      | cons c rest =>
          rw [List.nil_append, List.replicate_succ, readNumber?, noDigit c rfl]
  | cons c digits inductionHypothesis =>
      obtain ⟨others, rfl⟩ := Nat.exists_eq_succ_of_ne_zero (Nat.ne_of_gt (Nat.zero_lt_of_lt few))
      rw [List.cons_append, List.replicate_succ, readNumber?,
        DigitClass.value?_decimal allDigits.head]
      exact inductionHypothesis allDigits.tail (Nat.lt_of_succ_lt_succ few) _

namespace Pattern

section Literals

variable {c : Char} {literal : List Char} {pieces : List Piece}

theorem piecesOf_plain
    (plain : IsPlain c)
    (rest : List Char) :
    piecesOf (c :: rest) = .literal c :: piecesOf rest := by
  have unblanked : Piece.consLiteral c (piecesOf rest) = .literal c :: piecesOf rest := by
    simp [Piece.consLiteral, plain.isBlank_eq_false]
  rw [piecesOf, unblanked]
  · exact fun isPercent _ => plain.2 isPercent
  · exact fun _ _ isPercent _ => plain.2 isPercent

theorem piecesOf_literal
    (plain : ∀ c ∈ literal, IsPlain c)
    (rest : List Char) :
    piecesOf (literal ++ rest) = literal.map Piece.literal ++ piecesOf rest := by
  induction literal with
  | nil => rfl
  | cons c literal inductionHypothesis =>
      rw [List.cons_append, piecesOf_plain (plain c List.mem_cons_self),
        inductionHypothesis fun other member => plain other (List.mem_cons_of_mem c member)]
      rfl

/-- Plain text is read where it stands. -/
theorem readPieces?_literal
    (literal : List Char)
    (pieces : List Piece)
    (rest : List Char) :
    readPieces? (literal.map Piece.literal ++ pieces) (literal ++ rest) =
      readPieces? pieces rest := by
  induction literal with
  | nil => rfl
  | cons c literal inductionHypothesis =>
      rw [List.map_cons, List.cons_append, List.cons_append, readPieces?, Piece.readings,
        if_pos rfl]
      simp [inductionHypothesis]

theorem render_literal
    (literal : List Char)
    (date : Date) :
    ((literal.map Piece.literal).flatMap fun piece => piece.render date) = literal := by
  rw [List.flatMap_map]
  exact List.flatMap_singleton' literal

theorem readPieces?_literal_ne
    {other : Char}
    (different : Text.caseKey other ≠ Text.caseKey c)
    (pieces : List Piece)
    (rest : List Char) :
    readPieces? (.literal c :: pieces) (other :: rest) = none := by
  rw [readPieces?, Piece.readings, if_neg different]
  rfl

end Literals

/-- A field is not read if no reading of it can be followed up. -/
theorem readPieces?_field_eq_none
    {directive : Directive}
    {pieces : List Piece}
    {text : List Char}
    (stuck : ∀ number following, (number, following) ∈ directive.readings text →
      readPieces? pieces following = none) :
    readPieces? (.field directive :: pieces) text = none := by
  cases found : readPieces? (.field directive :: pieces) text with
  | none => rfl
  | some way =>
      obtain ⟨number, following, others, reading, throughOthers, _⟩ :=
        readPieces?_field_inv found
      rw [stuck number following reading] at throughOthers
      cases throughOthers

end Pattern

end Recurrence
