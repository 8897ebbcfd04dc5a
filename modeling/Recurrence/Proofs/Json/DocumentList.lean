import Mathlib.Data.List.TakeWhile
import Recurrence.Proofs.Json.Embedded

namespace Recurrence.Json

/-!
# Lists of documents

A text that is a document of its own can stand among the items of a list.  It is read there as
it is read alone, so a list of documents is read as the list of what each of them is read as, or
fails as the first of them that cannot be read.
-/

/-- A text that is JSON, whether its numbers can be read or not. -/
def IsDocument (text : List Char) : Prop :=
  read text ≠ .error .malformed

instance (text : List Char) : Decidable (IsDocument text) :=
  match found : read text with
  | .error .malformed => isFalse fun isDocument => isDocument found
  | .error (.oversized number) => isTrue fun malformed => by cases found.symm.trans malformed
  | .ok value => isTrue fun malformed => by cases found.symm.trans malformed

section Documents

variable {text after : List Char} {fuel : Nat}

/-- White space holds all of a text of which nothing is left without it. -/
theorem isBlank_of_skipBlank_isEmpty
    (empty : (skipBlank text).isEmpty = true) :
    ∀ c ∈ text, isBlank c = true :=
  List.dropWhile_eq_nil_iff.mp (List.isEmpty_iff.mp empty)

/-- A document begins like a value after its white space. -/
theorem IsDocument.beginsValue
    (isDocument : IsDocument text) :
    BeginsValue (skipBlank text) := by
  cases shape : skipBlank text with
  | nil =>
      refine absurd ?_ isDocument
      rw [read, shape, readValue_nil]
      rfl
  | cons c more =>
      refine ⟨c, more, rfl, ?_, ?_⟩
      case refine_1 =>
        have dark := List.head?_dropWhile_not isBlank text
        rw [← skipBlank, shape] at dark
        exact dark
      case refine_2 =>
        rintro rfl
        refine absurd ?_ isDocument
        rw [read, shape]
        rfl

/-- A document with more after it is read as it is alone, with white space left at its end. -/
theorem IsDocument.readValue_eq
    (isDocument : IsDocument text)
    (enough : fuelFor text ≤ fuel)
    (ends : EndsValue after) :
    ∃ blanks, (∀ c ∈ blanks, isBlank c = true) ∧
      readValue fuel (skipBlank text ++ after) =
        (read text).map fun value => (value, blanks ++ after) := by
  have embeds := (readsEmbedded (fuelFor text)).value enough ends (skipBlank text)
  rw [IsDocument, read] at isDocument
  rw [read]
  cases found : readValue (fuelFor text) (skipBlank text) with
  | error cause =>
      rw [found] at embeds isDocument
      have known : cause ≠ .malformed := by
        rintro rfl
        exact isDocument rfl
      refine ⟨[], List.forall_mem_nil _, ?_⟩
      rw [embeds fun same => known (Except.error.inj same)]
      rfl
  | ok reading =>
      obtain ⟨value, rest⟩ := reading
      rw [found] at embeds isDocument
      by_cases empty : (skipBlank rest).isEmpty = true
      · refine ⟨rest, isBlank_of_skipBlank_isEmpty empty, ?_⟩
        rw [embeds (by simp)]
        simp only [bind, Except.bind, empty]
        rfl
      · simp only [bind, Except.bind, empty] at isDocument
        exact absurd rfl isDocument

theorem skipBlank_append_of_begins
    (begins : BeginsValue (skipBlank text))
    (after : List Char) :
    skipBlank (text ++ after) = skipBlank text ++ after := by
  obtain ⟨c, more, shape, _⟩ := begins
  rw [skipBlank_append_of_cons shape, shape, List.cons_append]

/-- Documents with commas between them begin like the first of them. -/
theorem beginsValue_join
    {item : List Char}
    {others : List (List Char)}
    (isDocument : IsDocument item) :
    BeginsValue (skipBlank (Text.join ',' (item :: others))) := by
  cases others with
  | nil => exact isDocument.beginsValue
  | cons next more =>
      rw [Text.join, skipBlank_append_of_begins isDocument.beginsValue]
      exact isDocument.beginsValue.append _

/-- The last document of a list is read with the closing bracket after it. -/
theorem readItems_last
    (isDocument : IsDocument text)
    (enough : fuelFor text ≤ fuel) :
    readItems (fuel + 1) (skipBlank text ++ ']' :: after) =
      (read text).map fun value => ([value], after) := by
  have ends : EndsValue (']' :: after) := endsValue_cons (by decide)
  obtain ⟨blanks, blank, documentRead⟩ := isDocument.readValue_eq enough ends
  have closed : skipBlank (blanks ++ ']' :: after) = ']' :: after :=
    skipBlank_append_cons blank (by decide)
  rw [readItems, documentRead]
  cases read text with
  | error cause => rfl
  | ok value =>
      simp only [Except.map, bind, Except.bind, closed]
      rfl

/-- A document with a comma after it is read before what follows the comma. -/
theorem readItems_next
    (isDocument : IsDocument text)
    (enough : fuelFor text ≤ fuel) :
    readItems (fuel + 1) (skipBlank text ++ ',' :: after) =
      (read text).bind fun value =>
        (readItems fuel (skipBlank after)).map fun reading =>
          (value :: reading.1, reading.2) := by
  have ends : EndsValue (',' :: after) := endsValue_cons (by decide)
  obtain ⟨blanks, blank, documentRead⟩ := isDocument.readValue_eq enough ends
  have comma : skipBlank (blanks ++ ',' :: after) = ',' :: after :=
    skipBlank_append_cons blank (by decide)
  rw [readItems, documentRead]
  cases read text with
  | error cause => rfl
  | ok value =>
      simp only [Except.map, bind, Except.bind, comma]
      cases readItems fuel (skipBlank after) with
      | error cause => rfl
      | ok reading => rfl

/-- Documents with commas between them and a closing bracket are read one after the other. -/
theorem readItems_join
    {item : List Char}
    {others : List (List Char)}
    (documents : ∀ document ∈ item :: others, IsDocument document)
    (enough : fuelFor (Text.join ',' (item :: others)) < fuel) :
    readItems fuel (skipBlank (Text.join ',' (item :: others)) ++ ']' :: after) =
      ((item :: others).mapM read).map fun values => (values, after) := by
  obtain ⟨fuel, rfl⟩ := Nat.exists_eq_succ_of_ne_zero (Nat.ne_zero_of_lt enough)
  induction others generalizing item fuel with
  | nil =>
      obtain ⟨isDocument, _⟩ := List.forall_mem_cons.mp documents
      rw [Text.join, readItems_last isDocument (Nat.le_of_lt_succ enough), List.mapM_cons]
      cases read item with
      | error cause => rfl
      | ok value => rfl
  | cons next more inductionHypothesis =>
      obtain ⟨isDocument, othersDocuments⟩ := List.forall_mem_cons.mp documents
      have nextBegins : BeginsValue (skipBlank (Text.join ',' (next :: more))) :=
        beginsValue_join (othersDocuments next List.mem_cons_self)
      rw [Text.join, fuelFor, List.length_append, List.length_cons] at enough
      have itemEnough : fuelFor item ≤ fuel := by
        rw [fuelFor]
        omega
      have othersEnough : fuelFor (Text.join ',' (next :: more)) < fuel := by
        rw [fuelFor]
        omega
      obtain ⟨fuel, rfl⟩ := Nat.exists_eq_succ_of_ne_zero (Nat.ne_zero_of_lt othersEnough)
      rw [Text.join, skipBlank_append_of_begins isDocument.beginsValue, List.append_assoc,
        List.cons_append, readItems_next isDocument itemEnough, List.mapM_cons,
        skipBlank_append_of_begins nextBegins,
        inductionHypothesis othersDocuments fuel othersEnough]
      cases read item with
      | error cause => rfl
      | ok value =>
          cases (next :: more).mapM read with
          | error cause => rfl
          | ok values => rfl

/-- The text of a list with the texts of its items, and white space around the brackets. -/
inductive IsArray : List (List Char) → List Char → Prop where
  | empty {before between after : List Char}
      (blankBefore : ∀ c ∈ before, isBlank c = true)
      (blankBetween : ∀ c ∈ between, isBlank c = true)
      (blankAfter : ∀ c ∈ after, isBlank c = true) :
      IsArray [] (before ++ '[' :: (between ++ ']' :: after))
  | items {before after item : List Char} {others : List (List Char)}
      (blankBefore : ∀ c ∈ before, isBlank c = true)
      (blankAfter : ∀ c ∈ after, isBlank c = true) :
      IsArray (item :: others) (before ++ '[' :: (Text.join ',' (item :: others) ++ ']' :: after))

theorem skipBlank_eq_nil
    (blank : ∀ c ∈ text, isBlank c = true) :
    skipBlank text = [] :=
  List.dropWhile_eq_nil_iff.mpr blank

/-- The text of a list of documents is read as the list of what they are read as. -/
theorem IsArray.read_eq
    {items : List (List Char)}
    (isArray : IsArray items text)
    (documents : ∀ item ∈ items, IsDocument item) :
    read text = (items.mapM read).map Value.list := by
  cases isArray with
  | @empty before between after blankBefore blankBetween blankAfter =>
      rw [read, skipBlank_append_cons blankBefore (by decide), fuelFor, readValue,
        skipBlank_append_cons blankBetween (by decide)]
      simp only [bind, Except.bind, skipBlank_eq_nil blankAfter]
      rfl
  | @items before after item others blankBefore blankAfter =>
      have begins : BeginsValue (skipBlank (Text.join ',' (item :: others))) :=
        beginsValue_join (documents item List.mem_cons_self)
      have separated := skipBlank_append_of_begins begins (']' :: after)
      obtain ⟨c, more, shape, _, notClosed⟩ := begins
      have opened := skipBlank_append_of_cons shape (']' :: after)
      have enough :
          fuelFor (Text.join ',' (item :: others)) <
            2 * (before ++ '[' :: (Text.join ',' (item :: others) ++ ']' :: after)).length + 1 := by
        simp only [fuelFor, List.length_append, List.length_cons]
        omega
      rw [read, skipBlank_append_cons blankBefore (by decide), fuelFor,
        readValue_opened_list _ opened notClosed, separated, readItems_join documents enough]
      cases (item :: others).mapM read with
      | error cause => rfl
      | ok values =>
          simp only [Except.map, bind, Except.bind, skipBlank_eq_nil blankAfter]
          rfl

end Documents

end Recurrence.Json
