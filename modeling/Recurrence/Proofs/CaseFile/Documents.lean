import Recurrence.CaseFile
import Recurrence.Error.Result
import Recurrence.Proofs.Value.Fields

namespace Recurrence

/-!
# Documents that are read

JSON lets a key come twice, and its last value counts.  NestedText does not.  Either way no
object of a document that is read has two fields of one key.
-/

/-- No object in a value, nor the value itself, has two fields of one key. -/
inductive Value.DistinctKeys : Value → Prop where
  | null : DistinctKeys .null
  | boolean (truth : Bool) : DistinctKeys (.boolean truth)
  | integer (number : Int) : DistinctKeys (.integer number)
  | real (number : Binary64) : DistinctKeys (.real number)
  | text (content : Wording) : DistinctKeys (.text content)
  | list {items : List Value}
      (each : ∀ item ∈ items, DistinctKeys item) :
      DistinctKeys (.list items)
  | object {fields : Fields Value}
      (distinct : (Fields.keys fields).Nodup)
      (each : ∀ field ∈ fields, DistinctKeys field.2) :
      DistinctKeys (.object fields)

attribute [simp] Value.DistinctKeys.null Value.DistinctKeys.boolean Value.DistinctKeys.integer
  Value.DistinctKeys.real Value.DistinctKeys.text

section Objects

variable {fields : Fields Value} {key : Wording} {value : Value}

@[simp] theorem Value.distinctKeys_list_iff
    {items : List Value} :
    (Value.list items).DistinctKeys ↔ ∀ item ∈ items, item.DistinctKeys := by
  constructor
  · intro distinct
    cases distinct with
    | list each => exact each
  · exact .list

@[simp] theorem Value.distinctKeys_object_iff :
    (Value.object fields).DistinctKeys ↔
      fields.keys.Nodup ∧ ∀ field ∈ fields, field.2.DistinctKeys := by
  constructor
  · intro distinct
    cases distinct with
    | object keysDistinct each => exact ⟨keysDistinct, each⟩
  · rintro ⟨keysDistinct, each⟩
    exact .object keysDistinct each

theorem Value.DistinctKeys.noFields :
    (Value.object []).DistinctKeys :=
  .object List.nodup_nil nofun

theorem Value.DistinctKeys.ofPairs
    {pairs : List (Wording × Value)}
    (each : ∀ pair ∈ pairs, pair.2.DistinctKeys) :
    (Value.object (Fields.ofPairs pairs)).DistinctKeys :=
  .object (Fields.nodup_keys_ofPairs pairs) fun field member =>
    each field (Fields.mem_ofPairs member)

theorem Value.DistinctKeys.add
    (known : (Value.object fields).DistinctKeys)
    (isNew : fields.has key = false)
    (distinct : value.DistinctKeys) :
    (Value.object (fields.add key value)).DistinctKeys := by
  cases known with
  | object keysDistinct each =>
      have notKnown : key ∉ fields.keys := by
        rw [← Fields.has_eq_true_iff, isNew]
        exact Bool.false_ne_true
      apply DistinctKeys.object
      case distinct =>
        rw [Fields.add, Fields.keys, List.map_append, List.map_singleton,
          ← List.concat_eq_append]
        exact keysDistinct.concat notKnown
      case each =>
        intro field member
        rcases List.mem_append.mp member with inFields | isAdded
        · exact each field inFields
        · rw [List.mem_singleton.mp isAdded]
          exact distinct

end Objects

namespace Json

variable {text rest : List Char} {value : Value}

theorem distinctKeys_of_readUnsigned
    {negative : Bool}
    (read : readUnsigned negative text = .ok (value, rest)) :
    value.DistinctKeys := by
  simp only [readUnsigned] at read
  split at read
  · cases read
  · split at read
    · split at read
      · cases read
      · cases read
        exact .integer _
    · cases read
      exact .real _

theorem distinctKeys_of_readScalar
    (read : readScalar text = .ok (value, rest)) :
    value.DistinctKeys := by
  have ofWords : ∀ word ∈ words, word.2.DistinctKeys := by
    simp [words]
  unfold readScalar at read
  split at read
  · rename_i reading found
    cases read
    obtain ⟨word, member, meant⟩ := List.exists_of_findSome?_eq_some found
    obtain ⟨_, _, same⟩ := Option.map_eq_some_iff.mp meant
    cases same
    exact ofWords word member
  · split at read
    · exact distinctKeys_of_readUnsigned read
    · exact distinctKeys_of_readUnsigned read

/-- What is read in so many steps has no repeated keys. -/
structure ReadsDistinct (fuel : Nat) : Prop where
  value : ∀ {text value rest}, readValue fuel text = .ok (value, rest) → value.DistinctKeys
  items : ∀ {text items rest}, readItems fuel text = .ok (items, rest) →
    ∀ item ∈ items, item.DistinctKeys
  pairs : ∀ {text pairs rest}, readPairs fuel text = .ok (pairs, rest) →
    ∀ pair ∈ pairs, pair.2.DistinctKeys

namespace ReadsDistinct

variable {fuel : Nat}

theorem value_succ
    (before : ReadsDistinct fuel)
    (read : readValue (fuel + 1) text = .ok (value, rest)) :
    value.DistinctKeys := by
  unfold readValue at read
  split at read
  · obtain ⟨⟨content, after⟩, _, made⟩ := bind_eq_ok_iff.mp read
    cases made
    exact .text content
  · split at read
    · cases read
      exact .list nofun
    · obtain ⟨⟨items, after⟩, itemsRead, made⟩ := bind_eq_ok_iff.mp read
      cases made
      exact .list (before.items itemsRead)
  · split at read
    · cases read
      exact .noFields
    · obtain ⟨⟨pairs, after⟩, pairsRead, made⟩ := bind_eq_ok_iff.mp read
      cases made
      exact .ofPairs (before.pairs pairsRead)
  · exact distinctKeys_of_readScalar read

theorem items_succ
    {items : List Value}
    (before : ReadsDistinct fuel)
    (read : readItems (fuel + 1) text = .ok (items, rest)) :
    ∀ item ∈ items, item.DistinctKeys := by
  rw [readItems] at read
  obtain ⟨⟨item, after⟩, itemRead, continued⟩ := bind_eq_ok_iff.mp read
  have ofItem := before.value itemRead
  dsimp only at continued
  split at continued
  · obtain ⟨⟨others, after⟩, othersRead, made⟩ := bind_eq_ok_iff.mp continued
    cases made
    exact List.forall_mem_cons.mpr ⟨ofItem, before.items othersRead⟩
  · cases continued
    exact List.forall_mem_singleton.mpr ofItem
  · cases continued

theorem pairs_succ
    {pairs : List (Wording × Value)}
    (before : ReadsDistinct fuel)
    (read : readPairs (fuel + 1) text = .ok (pairs, rest)) :
    ∀ pair ∈ pairs, pair.2.DistinctKeys := by
  unfold readPairs at read
  split at read
  · obtain ⟨⟨key, afterKey⟩, _, continued⟩ := bind_eq_ok_iff.mp read
    dsimp only at continued
    split at continued
    · obtain ⟨⟨value, afterValue⟩, valueRead, continued⟩ := bind_eq_ok_iff.mp continued
      have ofValue := before.value valueRead
      dsimp only at continued
      split at continued
      · obtain ⟨⟨others, after⟩, othersRead, made⟩ := bind_eq_ok_iff.mp continued
        cases made
        exact List.forall_mem_cons.mpr ⟨ofValue, before.pairs othersRead⟩
      · cases continued
        exact List.forall_mem_singleton.mpr ofValue
      · cases continued
    · cases continued
  · cases read

end ReadsDistinct

theorem readsDistinct
    (fuel : Nat) :
    ReadsDistinct fuel := by
  induction fuel with
  | zero => exact ⟨nofun, nofun, nofun⟩
  | succ fuel inductionHypothesis =>
      exact ⟨inductionHypothesis.value_succ, inductionHypothesis.items_succ,
        inductionHypothesis.pairs_succ⟩

/-- The last value of a key counts, so that a document has none twice. -/
theorem distinctKeys_of_read
    (whole : read text = .ok value) :
    value.DistinctKeys := by
  obtain ⟨⟨found, after⟩, valueRead, checked⟩ := bind_eq_ok_iff.mp whole
  dsimp only at checked
  split at checked
  · cases checked
    exact (readsDistinct _).value valueRead
  · cases checked

end Json

namespace NestedText

/-- What is read in a line in so many steps has no repeated keys. -/
structure ReadsInlineDistinct (fuel : Nat) : Prop where
  value : ∀ {delimiters text value rest},
    readInlineValue? fuel delimiters text = some (value, rest) → value.DistinctKeys
  items : ∀ {item text items rest}, item.DistinctKeys →
    readInlineItems? fuel item text = some (items, rest) → ∀ item ∈ items, item.DistinctKeys
  fields : ∀ {known text fields rest}, (Value.object known).DistinctKeys →
    readInlineFields? fuel known text = some (fields, rest) → (Value.object fields).DistinctKeys

namespace ReadsInlineDistinct

variable {fuel : Nat} {text rest : List Char} {value : Value}

theorem value_succ
    {delimiters : List Char}
    (before : ReadsInlineDistinct fuel)
    (read : readInlineValue? (fuel + 1) delimiters text = some (value, rest)) :
    value.DistinctKeys := by
  unfold readInlineValue? at read
  split at read
  · cases read
    exact .list nofun
  · obtain ⟨⟨items, after⟩, itemsRead, made⟩ := Option.map_eq_some_iff.mp read
    cases made
    exact .list (before.items (.text "") itemsRead)
  · cases read
    exact .noFields
  · obtain ⟨⟨fields, after⟩, fieldsRead, made⟩ := Option.map_eq_some_iff.mp read
    cases made
    exact before.fields .noFields fieldsRead
  · cases read
    exact .text _

theorem items_succ
    {item : Value}
    {items : List Value}
    (before : ReadsInlineDistinct fuel)
    (distinct : item.DistinctKeys)
    (read : readInlineItems? (fuel + 1) item text = some (items, rest)) :
    ∀ item ∈ items, item.DistinctKeys := by
  unfold readInlineItems? at read
  split at read
  · obtain ⟨⟨others, after⟩, othersRead, made⟩ := Option.map_eq_some_iff.mp read
    cases made
    exact List.forall_mem_cons.mpr ⟨distinct, before.items (.text "") othersRead⟩
  · cases read
    exact List.forall_mem_singleton.mpr distinct
  · cases read
  · cases read
  · split at read
    · split at read
      · rename_i valueRead
        exact before.items (before.value valueRead) read
      · cases read
    · cases read

theorem fields_succ
    {known fields : Fields Value}
    (before : ReadsInlineDistinct fuel)
    (distinct : (Value.object known).DistinctKeys)
    (read : readInlineFields? (fuel + 1) known text = some (fields, rest)) :
    (Value.object fields).DistinctKeys := by
  unfold readInlineFields? at read
  split at read
  · split at read
    · cases read
    · rename_i isNew
      rw [Bool.not_eq_true] at isNew
      split at read
      · rename_i valueRead
        exact before.fields (distinct.add isNew (before.value valueRead)) read
      · rename_i valueRead
        cases read
        exact distinct.add isNew (before.value valueRead)
      · cases read
  · cases read

end ReadsInlineDistinct

theorem readsInlineDistinct
    (fuel : Nat) :
    ReadsInlineDistinct fuel := by
  induction fuel with
  | zero => exact ⟨nofun, fun _ => nofun, fun _ => nofun⟩
  | succ fuel inductionHypothesis =>
      exact ⟨inductionHypothesis.value_succ, inductionHypothesis.items_succ,
        inductionHypothesis.fields_succ⟩

theorem distinctKeys_of_readInline
    {text : List Char}
    {value : Value}
    (read : readInline? text = some value) :
    value.DistinctKeys := by
  rw [readInline?] at read
  split at read
  · rename_i valueRead
    cases read
    exact (readsInlineDistinct _).value valueRead
  · cases read

/-- What is read from lines in so many steps has no repeated keys. -/
structure ReadsDistinct (fuel : Nat) : Prop where
  value : ∀ {depth lines value rest},
    readLines? fuel depth lines = some (value, rest) → value.DistinctKeys
  items : ∀ {depth lines items rest},
    readItems? fuel depth lines = some (items, rest) → ∀ item ∈ items, item.DistinctKeys
  fields : ∀ {depth known lines fields rest}, (Value.object known).DistinctKeys →
    readFields? fuel depth known lines = some (fields, rest) →
      (Value.object fields).DistinctKeys
  entry : ∀ {depth content lines value rest},
    readMember? fuel depth content lines = some (value, rest) → value.DistinctKeys

namespace ReadsDistinct

variable {fuel depth : Nat} {lines rest : List Line} {value : Value}

theorem value_succ
    (before : ReadsDistinct fuel)
    (read : readLines? (fuel + 1) depth lines = some (value, rest)) :
    value.DistinctKeys := by
  cases lines with
  | nil =>
      rw [readLines?] at read
      cases read
  | cons line lines =>
      rw [readLines?] at read
      split at read
      · obtain ⟨⟨items, after⟩, itemsRead, made⟩ := Option.map_eq_some_iff.mp read
        cases made
        exact .list (before.items itemsRead)
      · obtain ⟨⟨fields, after⟩, fieldsRead, made⟩ := Option.map_eq_some_iff.mp read
        cases made
        exact before.fields .noFields fieldsRead
      · obtain ⟨⟨fields, after⟩, fieldsRead, made⟩ := Option.map_eq_some_iff.mp read
        cases made
        exact before.fields .noFields fieldsRead
      · obtain ⟨⟨contents, after⟩, _, made⟩ := Option.map_eq_some_iff.mp read
        cases made
        exact .text _
      · obtain ⟨inner, innerRead, made⟩ := Option.map_eq_some_iff.mp read
        cases made
        exact distinctKeys_of_readInline innerRead

theorem items_succ
    {items : List Value}
    (before : ReadsDistinct fuel)
    (read : readItems? (fuel + 1) depth lines = some (items, rest)) :
    ∀ item ∈ items, item.DistinctKeys := by
  cases lines with
  | nil =>
      rw [readItems?] at read
      cases read
      exact List.forall_mem_nil _
  | cons line lines =>
      rw [readItems?] at read
      split at read
      · cases read
        exact List.forall_mem_nil _
      · split at read
        · split at read
          · obtain ⟨⟨item, afterItem⟩, itemRead, continued⟩ := Option.bind_eq_some_iff.mp read
            obtain ⟨⟨others, after⟩, othersRead, made⟩ := Option.bind_eq_some_iff.mp continued
            cases made
            exact List.forall_mem_cons.mpr ⟨before.entry itemRead, before.items othersRead⟩
          · cases read
        · cases read

/-- A key that is known is refused, and a new one is added before reading on. -/
theorem fields_of_new
    {known fields : Fields Value}
    {name : String}
    (before : ReadsDistinct fuel)
    (knownDistinct : (Value.object known).DistinctKeys)
    (distinct : value.DistinctKeys)
    (read :
      (if known.has name then none else readFields? fuel depth (known.add name value) lines) =
        some (fields, rest)) :
    (Value.object fields).DistinctKeys := by
  split at read
  · cases read
  · rename_i isNew
    rw [Bool.not_eq_true] at isNew
    exact before.fields (knownDistinct.add isNew distinct) read

theorem fields_succ
    {known fields : Fields Value}
    (before : ReadsDistinct fuel)
    (distinct : (Value.object known).DistinctKeys)
    (read : readFields? (fuel + 1) depth known lines = some (fields, rest)) :
    (Value.object fields).DistinctKeys := by
  cases lines with
  | nil =>
      rw [readFields?] at read
      cases read
      exact distinct
  | cons line lines =>
      rw [readFields?] at read
      split at read
      · cases read
        exact distinct
      · split at read
        · split at read
          · obtain ⟨⟨entry, afterEntry⟩, entryRead, continued⟩ :=
              Option.bind_eq_some_iff.mp read
            exact before.fields_of_new distinct (before.entry entryRead) continued
          · obtain ⟨deeper, _, continued⟩ := Option.bind_eq_some_iff.mp read
            obtain ⟨⟨entry, afterEntry⟩, entryRead, continued⟩ :=
              Option.bind_eq_some_iff.mp continued
            exact before.fields_of_new distinct (before.value entryRead) continued
          · cases read
        · cases read

theorem entry_succ
    {content : List Char}
    (before : ReadsDistinct fuel)
    (read : readMember? (fuel + 1) depth content lines = some (value, rest)) :
    value.DistinctKeys := by
  rw [readMember?] at read
  split at read
  · split at read
    · exact before.value read
    · cases read
      exact .text _
  · cases read
    exact .text _

end ReadsDistinct

theorem readsDistinct
    (fuel : Nat) :
    ReadsDistinct fuel := by
  induction fuel with
  | zero => constructor <;> simp [readLines?, readItems?, readFields?, readMember?]
  | succ fuel inductionHypothesis =>
      exact ⟨inductionHypothesis.value_succ, inductionHypothesis.items_succ,
        inductionHypothesis.fields_succ, inductionHypothesis.entry_succ⟩

/-- A key that comes again is refused, so that a document has none twice. -/
theorem distinctKeys_of_read
    {text : List Char}
    {value : Value}
    (whole : read? text = some value) :
    value.DistinctKeys := by
  obtain ⟨lines, _, found⟩ := Option.bind_eq_some_iff.mp whole
  rw [readDocument?] at found
  split at found
  · cases found
    exact .null
  · split at found
    · rename_i valueRead
      cases found
      exact (readsDistinct _).value valueRead
    · cases found

end NestedText

namespace CaseFile

theorem distinctKeys_of_readJson
    {text : List Char}
    {value : Value}
    (read : readJson text = .ok value) :
    value.DistinctKeys :=
  Json.distinctKeys_of_read (mapError_eq_ok_iff.mp read)

theorem distinctKeys_of_readJsonLines
    {lines : List (List Char)}
    {values : List Value}
    (read : readJsonLines lines = .ok values) :
    ∀ value ∈ values, value.DistinctKeys := by
  induction lines generalizing values with
  | nil =>
      cases read
      exact nofun
  | cons line lines inductionHypothesis =>
      rw [readJsonLines] at read
      split at read
      · exact inductionHypothesis read
      · obtain ⟨value, lineRead, continued⟩ := bind_eq_ok_iff.mp read
        obtain ⟨others, othersRead, made⟩ := bind_eq_ok_iff.mp continued
        cases made
        exact List.forall_mem_cons.mpr
          ⟨distinctKeys_of_readJson lineRead, inductionHypothesis othersRead⟩

/-- In a document of any format no object has two fields of one key. -/
theorem distinctKeys_of_readText
    {path : String}
    {format : FileFormat}
    {text : List Char}
    {document : Value}
    (read : readText path format text = .ok document) :
    document.DistinctKeys := by
  cases format with
  | json => exact distinctKeys_of_readJson read
  | jsonLines =>
      rw [readText] at read
      cases valuesRead : readJsonLines (Text.lines text) with
      | error error =>
          rw [valuesRead] at read
          cases read
      | ok values =>
          rw [valuesRead] at read
          cases read
          exact .list (distinctKeys_of_readJsonLines valuesRead)
  | nestedText =>
      rw [readText, readNestedText] at read
      split at read
      · rename_i found
        cases read
        exact NestedText.distinctKeys_of_read found
      · cases read

end CaseFile

end Recurrence
