import Recurrence.Text.Quoted

namespace Recurrence

/-!
# Texts of documents

A JSON string can name half of a surrogate pair alone, which is no character.
The texts of documents are therefore either whole, a string, or broken, a list of
code points with such halves among them.  No text has both forms, so texts are equal
exactly if their code points are.  UTF-8 has no bytes for a broken text.
-/

/-- Whether a code point is half of a surrogate pair. -/
def Wording.isHalf (code : Nat) : Bool :=
  0xD800 ≤ code && code ≤ 0xDFFF

/-- A text of a document: a string, or code points of which some are halves of surrogate pairs. -/
inductive Wording where
  | whole (content : String)
  | broken (codes : List Nat) (isBroken : codes.any Wording.isHalf = true)
  deriving Repr, DecidableEq

namespace Wording

instance : Coe String Wording := ⟨whole⟩

/-- The text of some code points. -/
def ofCodes (codes : List Nat) : Wording :=
  if isBroken : codes.any isHalf = true then
    broken codes isBroken
  else
    whole (String.ofList (codes.map Char.ofNat))

/-- The code points of a text. -/
def codes : Wording → List Nat
  | whole content => content.toList.map Char.toNat
  | broken codes _ => codes

/-- The content of a whole text. -/
def string? : Wording → Option String
  | whole content => some content
  | broken _ _ => none

/-- Whether a text is a string. -/
def isWhole : Wording → Bool
  | whole _ => true
  | broken _ _ => false

/-- Whether a text has no characters. -/
def isEmpty : Wording → Bool
  | whole content => content.isEmpty
  | broken codes _ => codes.isEmpty

/-- Texts are ordered by their code points. -/
instance : LT Wording := ⟨fun first second => first.codes < second.codes⟩

instance : DecidableLT Wording := fun first second =>
  inferInstanceAs (Decidable (first.codes < second.codes))

/-- One text after another.  Halves of surrogate pairs stay halves where they meet. -/
def append : Wording → Wording → Wording
  | whole first, whole second => whole (first ++ second)
  | first, second => ofCodes (first.codes ++ second.codes)

instance : Append Wording := ⟨append⟩

@[simp] theorem whole_append_whole
    (first second : String) :
    whole first ++ whole second = whole (first ++ second) :=
  rfl

/-- The character of a code point, U+FFFD for half of a surrogate pair. -/
def charOfCode (code : Nat) : Char :=
  if isHalf code then '\ufffd' else Char.ofNat code

/--
The text as it is read, with U+FFFD for every half of a surrogate pair.  It serves where
neither of the two means anything and no part of the text is kept.
-/
def legible : Wording → String
  | whole content => content
  | broken codes _ => String.ofList (codes.map charOfCode)

/-- A code point between quote marks. -/
def quotedCode (mark : Char) (code : Nat) : List Char :=
  if isHalf code then Text.escapedCode code else Text.quotedChar mark (Char.ofNat code)

/-- The text in quotes. -/
def quoted : Wording → List Char
  | whole content => Text.quoted content.toList
  | broken codes _ =>
      let mark := Text.quoteMark (codes.map charOfCode)
      mark :: (codes.flatMap (quotedCode mark) ++ [mark])

/-- A character is no half of a surrogate pair. -/
theorem isHalf_toNat
    (c : Char) :
    isHalf c.toNat = false := by
  have valid := c.valid
  simp only [UInt32.isValidChar, Nat.isValidChar, UInt32.toNat] at valid
  simp only [isHalf, Char.toNat, UInt32.toNat, Bool.and_eq_false_iff, decide_eq_false_iff_not]
  omega

theorem any_isHalf_toNat
    (text : List Char) :
    (text.map Char.toNat).any isHalf = false := by
  rw [List.any_map, List.any_eq_false]
  intro c _
  simp [isHalf_toNat]

/-- Code points of characters make a whole text. -/
theorem ofCodes_toNat
    (text : List Char) :
    ofCodes (text.map Char.toNat) = whole (String.ofList text) := by
  have noHalf : ¬ (text.map Char.toNat).any isHalf = true := by
    rw [any_isHalf_toNat]
    exact Bool.false_ne_true
  have same : (text.map Char.toNat).map Char.ofNat = text := by
    simp [Function.comp_def]
  rw [ofCodes, dif_neg noHalf, same]

end Wording

end Recurrence
