import Recurrence.Proofs.CaseFile.Loading
import Recurrence.Proofs.Json.DocumentList
import Recurrence.Proofs.Text.IntegerText

namespace Recurrence

/-!
# Cases on lines and cases in a list

A file of JSON lines holds the records that a list of the same documents holds.  Lines of white
space are passed over and do not count, so that a record has the same position in both files.
White space here is that of Unicode, which is more than that of JSON: a document is never all
white space in either sense.
-/

namespace Json

section Blank

variable {c : Char} {text : List Char}

/-- No word begins with white space. -/
theorem head?_isBlank_of_mem_words :
    ∀ entry ∈ words, entry.1.toList.head?.map Text.isBlank = some false := by
  decide

theorem readScalar_of_isBlank
    (blank : Text.isBlank c = true)
    (more : List Char) :
    readScalar (c :: more) = .error .malformed := by
  have noWord : ∀ entry ∈ words, dropWord? entry.1 (c :: more) = none := by
    intro entry member
    have dark := head?_isBlank_of_mem_words entry member
    cases shape : entry.1.toList with
    | nil =>
        rw [shape] at dark
        cases dark
    | cons first others =>
        have differs : first ≠ c := by
          rintro rfl
          rw [shape, List.head?_cons, Option.map_some, blank] at dark
          cases dark
        simp [dropWord?, shape, List.isPrefixOf, differs]
  have outside : ¬ Text.IsIntegerChar c := by
    intro inInteger
    exact Bool.false_ne_true ((Text.isBlank_eq_false_of_isIntegerChar inInteger).symm.trans blank)
  have notDigit : ¬ c.isDigit = true := fun digit => outside (Or.inr digit)
  have notZero : ∀ rest, c :: more = '0' :: rest → False := by
    intro rest same
    exact notDigit (by rw [(List.cons.inj same).1]; rfl)
  have notMinus : ∀ rest, c :: more = '-' :: rest → False :=
    fun rest same => outside (Or.inl (List.cons.inj same).1)
  have noNumber : readWhole? (c :: more) = none := by
    rw [readWhole?.eq_2 _ notZero, spanDigits, List.takeWhile_cons_of_neg notDigit]
    rfl
  have notFound (entry : String × Value) (member : entry ∈ words) :
      ((dropWord? entry.1 (c :: more)).map fun rest => (entry.2, rest)) = none := by
    rw [noWord entry member, Option.map_none]
  rw [readScalar, List.findSome?_eq_none_iff.mpr notFound]
  dsimp only
  rw [readUnsigned, noNumber]
  exact notMinus

/-- A document holds more than white space. -/
theorem IsDocument.all_isBlank_eq_false
    (isDocument : IsDocument text) :
    text.all Text.isBlank = false := by
  apply Bool.eq_false_iff.mpr
  intro all
  obtain ⟨c, more, shape, _⟩ := isDocument.beginsValue
  have member : c ∈ text := by
    apply (List.dropWhile_sublist isBlank).mem
    rw [← skipBlank, shape]
    exact List.mem_cons_self
  have blank := List.all_eq_true.mp all c member
  have notMark (mark : Char) (dark : Text.isBlank mark = false) :
      ∀ rest, c :: more = mark :: rest → False := by
    intro rest same
    rw [(List.cons.inj same).1, dark] at blank
    cases blank
  apply isDocument
  rw [read, shape, fuelFor, readValue.eq_5 _ _ (notMark '"' (by decide)) (notMark '[' (by decide))
    (notMark '\x7b' (by decide)), readScalar_of_isBlank blank]
  rfl

end Blank

end Json

namespace CaseFile

/-- Texts that stand on lines of their own, in order, among any number of blank lines. -/
inductive Spread : List (List Char) → List (List Char) → Prop where
  | nil : Spread [] []
  | blank {line : List Char} {texts lines : List (List Char)}
      (isBlank : line.all Text.isBlank = true)
      (others : Spread texts lines) :
      Spread texts (line :: lines)
  | text {text : List Char} {texts lines : List (List Char)}
      (others : Spread texts lines) :
      Spread (text :: texts) (text :: lines)

/--
Two files of records come to the same: to the same cases, or to the same failure, which names
the position of the record alike if it names one.
-/
inductive SameOutcome (path other : String) :
    Except LoadError (List Case) → Except LoadError (List Case) → Prop where
  | cases (cases : List Case) : SameOutcome path other (.ok cases) (.ok cases)
  | notAnObject (index : Nat) :
      SameOutcome path other (.error (.notAnObject (.position index) path))
        (.error (.notAnObject (.position index) other))
  | invalidFields (errors : List FieldError) :
      SameOutcome path other (.error (.invalidFields errors)) (.error (.invalidFields errors))
  | oversized (number : Text.Oversized) :
      SameOutcome path other (.error (.oversized number)) (.error (.oversized number))

section Outcomes

variable {path other : String} {values : List Value} {texts items lines : List (List Char)}

/-- Lines are read as the documents among them. -/
theorem Spread.readJsonLines_eq
    (spread : Spread texts lines)
    (documents : ∀ text ∈ texts, Json.IsDocument text) :
    readJsonLines lines = (texts.mapM Json.read).mapError ofReadError := by
  induction spread with
  | nil => rfl
  | blank isBlank others inductionHypothesis =>
      rw [readJsonLines, if_pos isBlank, inductionHypothesis documents]
  | @text text texts lines others inductionHypothesis =>
      obtain ⟨isDocument, othersDocuments⟩ := List.forall_mem_cons.mp documents
      rw [readJsonLines, isDocument.all_isBlank_eq_false, if_neg Bool.false_ne_true, readJson,
        inductionHypothesis othersDocuments, List.mapM_cons]
      cases Json.read text with
      | error cause => rfl
      | ok value =>
          cases texts.mapM Json.read with
          | error cause => rfl
          | ok values => rfl

/-- What comes of a list does not depend on the name of its file. -/
theorem Loading.exists_sameOutcome
    {outcome : Except LoadError (List Case)}
    (loading : Loading path (.list values) outcome)
    (other : String) :
    ∃ otherOutcome, Loading other (.list values) otherOutcome ∧
      SameOutcome path other outcome otherOutcome := by
  cases loading with
  | notCases noEntries => cases noEntries
  | @notAnObject before key value after shape notObject =>
      have noKey : key = none := by
        have member : (key, value) ∈ before.map Record.entry ++ (key, value) :: after :=
          List.mem_append_right _ List.mem_cons_self
        rw [← Option.some.inj shape] at member
        obtain ⟨_, _, same⟩ := List.mem_map.mp member
        exact (Prod.mk.inj same).1.symm
      subst noKey
      exact ⟨_, .notAnObject shape notObject, .notAnObject before.length⟩
  | invalidFields shape valid invalid =>
      exact ⟨_, .invalidFields shape valid invalid, .invalidFields _⟩
  | cases shape given => exact ⟨_, .cases shape given, .cases _⟩

theorem casesOf_list_sameOutcome
    (path other : String)
    (distinct : (Value.list values).DistinctKeys) :
    SameOutcome path other (casesOf path (.list values)) (casesOf other (.list values)) := by
  obtain ⟨outcome, loading⟩ := exists_loading path (.list values)
  obtain ⟨otherOutcome, otherLoading, same⟩ := loading.exists_sameOutcome other
  rw [loading.casesOf_eq distinct, otherLoading.casesOf_eq distinct]
  exact same

theorem isDocument_of_sameValues
    (sameValues : List.Forall₂ (fun item text => Json.read item = Json.read text) items texts)
    (documents : ∀ text ∈ texts, Json.IsDocument text) :
    ∀ item ∈ items, Json.IsDocument item := by
  induction sameValues with
  | nil => exact nofun
  | cons same others inductionHypothesis =>
      obtain ⟨isDocument, othersDocuments⟩ := List.forall_mem_cons.mp documents
      rw [Json.IsDocument, ← same] at isDocument
      exact List.forall_mem_cons.mpr ⟨isDocument, inductionHypothesis othersDocuments⟩

theorem mapM_read_eq
    (sameValues : List.Forall₂ (fun item text => Json.read item = Json.read text) items texts) :
    items.mapM Json.read = texts.mapM Json.read := by
  induction sameValues with
  | nil => rfl
  | cons same others inductionHypothesis =>
      rw [List.mapM_cons, List.mapM_cons, same, inductionHypothesis]

/-- Documents that cannot all be read have a number that is too long. -/
theorem exists_oversized_of_mapM_read
    {cause : Json.ReadError}
    (documents : ∀ text ∈ texts, Json.IsDocument text)
    (fails : texts.mapM Json.read = .error cause) :
    ∃ number, cause = .oversized number := by
  induction texts with
  | nil => cases fails
  | cons text texts inductionHypothesis =>
      obtain ⟨isDocument, othersDocuments⟩ := List.forall_mem_cons.mp documents
      rw [List.mapM_cons] at fails
      rcases bind_eq_error_iff.mp fails with textFails | ⟨value, _, othersFail⟩
      · cases cause with
        | malformed => exact absurd textFails isDocument
        | oversized number => exact ⟨number, rfl⟩
      · rcases bind_eq_error_iff.mp othersFail with othersFail | ⟨values, _, made⟩
        · exact inductionHypothesis othersDocuments othersFail
        · cases made

end Outcomes

/--
A file with a document on each line that is not blank and a file with a list of the same documents
come to the same.  The documents may be any values: a record that is no object is reported at the
same position, whatever lines there are between the records.
-/
theorem loadText_sameOutcome
    {linesPath arrayPath : String}
    {texts items : List (List Char)}
    {file array : List Char}
    (linesNamed : format? linesPath = some .jsonLines)
    (arrayNamed : format? arrayPath = some .json)
    (documents : ∀ text ∈ texts, Json.IsDocument text)
    (onLines : Spread texts (Text.lines file))
    (sameValues : List.Forall₂ (fun item text => Json.read item = Json.read text) items texts)
    (inArray : Json.IsArray items array) :
    SameOutcome (normalPath linesPath) (normalPath arrayPath)
      (loadText linesPath file) (loadText arrayPath array) := by
  have itemDocuments := isDocument_of_sameValues sameValues documents
  have linesRead : readText (normalPath linesPath) .jsonLines file =
      ((texts.mapM Json.read).map Value.list).mapError ofReadError := by
    rw [readText, onLines.readJsonLines_eq documents]
    cases texts.mapM Json.read with
    | error cause => rfl
    | ok values => rfl
  have arrayRead : readText (normalPath arrayPath) .json array =
      ((texts.mapM Json.read).map Value.list).mapError ofReadError := by
    rw [readText, readJson, inArray.read_eq itemDocuments, mapM_read_eq sameValues]
  rw [loadText, linesNamed, loadText, arrayNamed]
  dsimp only
  rw [loadFormat, linesRead, loadFormat, arrayRead]
  cases read : texts.mapM Json.read with
  | error cause =>
      obtain ⟨number, rfl⟩ := exists_oversized_of_mapM_read documents read
      exact .oversized number
  | ok values =>
      rw [read] at arrayRead
      exact casesOf_list_sameOutcome _ _ (distinctKeys_of_readText arrayRead)

/-- A record with a rule alone. -/
def ruleOnly : Value :=
  .object [("repeat", .text "y")]

theorem writable_ruleOnly :
    Json.Writable ruleOnly := by
  simp [ruleOnly, Fields.keys]

/-- Blank lines around two records leave the second of them the second. -/
theorem loadText_sameOutcome_blankLines :
    (format? "cases.jsonl" = some .jsonLines ∧ format? "cases.json" = some .json) ∧
      SameOutcome (normalPath "cases.jsonl") (normalPath "cases.json")
        (loadText "cases.jsonl" "\n\x7b\"repeat\":\"y\"\x7d\r\n \t\u00a0\n\n[5]\n \n".toList)
        (loadText "cases.json" " [\x7b\n \"repeat\": \"y\"\n\x7d,[5]]\n".toList) := by
  have linesNamed : format? "cases.jsonl" = some .jsonLines := by decide
  have arrayNamed : format? "cases.json" = some .json := by decide
  refine ⟨⟨linesNamed, arrayNamed⟩, ?_⟩
  have written : "\x7b\"repeat\":\"y\"\x7d".toList = Json.write .compact ruleOnly := by
    decide +kernel
  have indented : "\x7b\n \"repeat\": \"y\"\n\x7d".toList = Json.write (.indented 1) ruleOnly := by
    decide +kernel
  have documents :
      ∀ text ∈ ["\x7b\"repeat\":\"y\"\x7d".toList, "[5]".toList], Json.IsDocument text := by
    decide +kernel
  have lines :
      Text.lines "\n\x7b\"repeat\":\"y\"\x7d\r\n \t\u00a0\n\n[5]\n \n".toList =
        [[], "\x7b\"repeat\":\"y\"\x7d".toList, " \t\u00a0".toList, [], "[5]".toList, [' '], []] := by
    decide +kernel
  have onLines :
      Spread ["\x7b\"repeat\":\"y\"\x7d".toList, "[5]".toList]
        (Text.lines "\n\x7b\"repeat\":\"y\"\x7d\r\n \t\u00a0\n\n[5]\n \n".toList) := by
    rw [lines]
    exact .blank rfl (.text (.blank (by decide) (.blank rfl (.text (.blank rfl (.blank rfl .nil))))))
  have sameValues :
      List.Forall₂ (fun item text => Json.read item = Json.read text)
        ["\x7b\n \"repeat\": \"y\"\n\x7d".toList, "[5]".toList]
        ["\x7b\"repeat\":\"y\"\x7d".toList, "[5]".toList] := by
    refine .cons ?_ (.cons rfl .nil)
    rw [written, indented, Json.read_write Json.Style.separates_compact writable_ruleOnly,
      Json.read_write (Json.Style.separates_indented 1) writable_ruleOnly]
  have inArray :
      Json.IsArray ["\x7b\n \"repeat\": \"y\"\n\x7d".toList, "[5]".toList]
        " [\x7b\n \"repeat\": \"y\"\n\x7d,[5]]\n".toList :=
    @Json.IsArray.items [' '] ['\n'] _ _ (List.all_eq_true.mp rfl) (List.all_eq_true.mp rfl)
  exact loadText_sameOutcome linesNamed arrayNamed documents onLines sameValues inArray

end CaseFile

end Recurrence
