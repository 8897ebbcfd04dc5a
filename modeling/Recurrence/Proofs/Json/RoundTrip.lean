import Recurrence.Proofs.Json.ScalarText
import Recurrence.Proofs.Json.StringText
import Recurrence.Proofs.Value.Fields

namespace Recurrence.Json

/-!
# Documents written and read again

A writable value has whole texts, numbers that are not too long, and no key twice in
an object.  In every style whose separators are those of JSON, up to white space, it
is written as a text that is read as the value.  In the compact style no control
character is written, so the text of a value is a single line.
-/

/-- The separators of a style are a comma and a colon, with white space after them. -/
structure Style.Separates (style : Style) : Prop where
  item : ∃ blanks, style.itemSeparator.toList = ',' :: blanks ∧ ∀ c ∈ blanks, isBlank c = true
  key : ∃ blanks, style.keySeparator.toList = ':' :: blanks ∧ ∀ c ∈ blanks, isBlank c = true

/-- A value of which every part can be written and read again. -/
inductive Writable : Value → Prop where
  | null : Writable .null
  | boolean (truth : Bool) : Writable (.boolean truth)
  | integer {number : Int}
      (short : (Text.naturalText number.natAbs).length ≤ Text.maxDigits) :
      Writable (.integer number)
  | text (content : String) : Writable (.text content)
  | list {items : List Value}
      (each : ∀ item ∈ items, Writable item) :
      Writable (.list items)
  | object {fields : Fields Value}
      (wholeKeys : ∀ field ∈ fields, ∃ key : String, field.1 = .whole key)
      (distinct : (Fields.keys fields).Nodup)
      (each : ∀ field ∈ fields, Writable field.2) :
      Writable (.object fields)

attribute [simp] Writable.null Writable.boolean Writable.text

@[simp] theorem writable_list_iff
    {items : List Value} :
    Writable (.list items) ↔ ∀ item ∈ items, Writable item := by
  constructor
  · intro writable
    cases writable with
    | list each => exact each
  · exact .list

@[simp] theorem writable_object_iff
    {fields : Fields Value} :
    Writable (.object fields) ↔
      (∀ field ∈ fields, ∃ key : String, field.1 = .whole key) ∧ (Fields.keys fields).Nodup ∧
        ∀ field ∈ fields, Writable field.2 := by
  constructor
  · intro writable
    cases writable with
    | object wholeKeys distinct each => exact ⟨wholeKeys, distinct, each⟩
  · rintro ⟨wholeKeys, distinct, each⟩
    exact .object wholeKeys distinct each

theorem Style.separates_compact :
    compact.Separates where
  item := ⟨[], rfl, nofun⟩
  key := ⟨[], rfl, nofun⟩

theorem Style.separates_indented
    (indent : Nat) :
    (indented indent).Separates where
  item := ⟨[], (rfl : ",".toList = [',']), nofun⟩
  key := ⟨[' '], (by decide : ": ".toList = [':', ' ']), by simp [isBlank]⟩

section Blanks

variable {blanks text rest : List Char} {c : Char}

theorem skipBlank_append
    (blank : ∀ c ∈ blanks, isBlank c = true)
    (text : List Char) :
    skipBlank (blanks ++ text) = skipBlank text :=
  List.dropWhile_append_of_pos blank

theorem skipBlank_cons
    (dark : isBlank c = false) :
    skipBlank (c :: rest) = c :: rest := by
  simp [skipBlank, dark]

theorem skipBlank_append_cons
    (blank : ∀ c ∈ blanks, isBlank c = true)
    (dark : isBlank c = false) :
    skipBlank (blanks ++ c :: rest) = c :: rest := by
  rw [skipBlank_append blank, skipBlank_cons dark]

theorem isBlank_of_mem_lineBreak
    {style : Style}
    {level : Nat} :
    ∀ c ∈ lineBreak style level, isBlank c = true := by
  intro c member
  unfold lineBreak at member
  cases indented : style.indent with
  | none =>
      simp [indented] at member
  | some indent =>
      simp only [indented, List.mem_cons, List.mem_replicate] at member
      rcases member with rfl | ⟨_, rfl⟩
      · decide
      · decide

end Blanks

/-- A text begins like a value: neither with white space nor with a closing bracket. -/
def BeginsValue (text : List Char) : Prop :=
  ∃ c more, text = c :: more ∧ isBlank c = false ∧ c ≠ ']'

/-- A value is read from its text, whatever follows that. -/
def ReadsBack (style : Style) (value : Value) : Prop :=
  ∀ {level fuel rest}, (writeValue style level value).length ≤ fuel → EndsValue rest →
    readValue fuel (writeValue style level value ++ rest) = .ok (value, rest)

section Values

variable {value : Value} {rest : List Char}

/-- The text of an integer begins with a minus sign or a digit. -/
theorem integerText_begins
    (number : Int) :
    ∃ c more, Text.integerText number = c :: more ∧ (c = '-' ∨ c.isDigit = true) := by
  unfold Text.integerText
  split
  · exact ⟨'-', _, rfl, Or.inl rfl⟩
  · cases shape : Text.naturalText number.natAbs with
    | nil =>
        exact absurd shape (Text.naturalText_ne_nil number.natAbs)
    | cons c more =>
        exact ⟨c, more, rfl, Or.inr (Text.isDigit_of_mem_naturalText (shape ▸ List.mem_cons_self))⟩

theorem beginsValue_integerText
    (number : Int) :
    BeginsValue (Text.integerText number) := by
  obtain ⟨c, more, shape, minus | digit⟩ := integerText_begins number
  · exact ⟨c, more, shape, by rw [minus]; decide, by rw [minus]; decide⟩
  · have opensNumber : closesValue c = false := by
      apply Bool.eq_false_iff.mpr
      intro closes
      exact Bool.eq_false_iff.mp (not_number_of_closesValue closes).1 digit
    simp only [closesValue, Bool.or_eq_false_iff, beq_eq_false_iff_ne] at opensNumber
    obtain ⟨⟨⟨_, notBracket⟩, _⟩, dark⟩ := opensNumber
    exact ⟨c, more, shape, dark, notBracket⟩

theorem beginsValue_writeValue
    (style : Style)
    (level : Nat)
    (writable : Writable value) :
    BeginsValue (writeValue style level value) := by
  cases writable with
  | null => exact ⟨'n', _, rfl, rfl, by decide⟩
  | boolean truth =>
      cases truth with
      | false => exact ⟨'f', _, rfl, rfl, by decide⟩
      | true => exact ⟨'t', _, rfl, rfl, by decide⟩
  | @integer number short => exact beginsValue_integerText number
  | text content => exact ⟨'"', _, rfl, rfl, by decide⟩
  | @list items each =>
      cases items with
      | nil => exact ⟨'[', _, rfl, rfl, by decide⟩
      | cons item others => exact ⟨'[', _, rfl, rfl, by decide⟩
  | @object fields wholeKeys distinct each =>
      cases fields with
      | nil => exact ⟨'\x7b', _, rfl, rfl, by decide⟩
      | cons field others => exact ⟨'\x7b', _, rfl, rfl, by decide⟩

theorem BeginsValue.skipBlank_eq
    {text : List Char}
    (begins : BeginsValue text) :
    skipBlank (text ++ rest) = text ++ rest := by
  obtain ⟨c, more, rfl, dark, _⟩ := begins
  exact skipBlank_cons dark

theorem BeginsValue.append
    {text : List Char}
    (begins : BeginsValue text)
    (rest : List Char) :
    BeginsValue (text ++ rest) := by
  obtain ⟨c, more, rfl, dark, notBracket⟩ := begins
  exact ⟨c, more ++ rest, rfl, dark, notBracket⟩

/-- A value has a text. -/
theorem length_writeValue_pos
    (style : Style)
    (level : Nat)
    (writable : Writable value) :
    1 ≤ (writeValue style level value).length := by
  obtain ⟨c, more, shape, _⟩ := beginsValue_writeValue style level writable
  rw [shape, List.length_cons]
  exact Nat.le_add_left 1 more.length

end Values

section Steps

variable {fuel : Nat} {text after others rest : List Char} {item value : Value} {key : Wording}

theorem readItems_of_bracket
    (read : readValue fuel text = .ok (item, after))
    (closed : skipBlank after = ']' :: rest) :
    readItems (fuel + 1) text = .ok ([item], rest) := by
  simp only [readItems, read, closed, bind, Except.bind, pure, Except.pure]

theorem readItems_of_comma
    {items : List Value}
    (read : readValue fuel text = .ok (item, ',' :: others))
    (othersRead : readItems fuel (skipBlank others) = .ok (items, rest)) :
    readItems (fuel + 1) text = .ok (item :: items, rest) := by
  have comma : skipBlank (',' :: others) = ',' :: others := skipBlank_cons (by decide)
  simp only [readItems, read, comma, othersRead, bind, Except.bind, pure, Except.pure]

theorem readPairs_of_brace
    (keyRead : readString text = .ok (key, ':' :: others))
    (read : readValue fuel (skipBlank others) = .ok (value, after))
    (closed : skipBlank after = '\x7d' :: rest) :
    readPairs (fuel + 1) ('"' :: text) = .ok ([(key, value)], rest) := by
  have colon : skipBlank (':' :: others) = ':' :: others := skipBlank_cons (by decide)
  simp only [readPairs, keyRead, colon, read, closed, bind, Except.bind, pure, Except.pure]

theorem readPairs_of_comma
    {pairs : Fields Value}
    (keyRead : readString text = .ok (key, ':' :: others))
    (read : readValue fuel (skipBlank others) = .ok (value, ',' :: after))
    (othersRead : readPairs fuel (skipBlank after) = .ok (pairs, rest)) :
    readPairs (fuel + 1) ('"' :: text) = .ok ((key, value) :: pairs, rest) := by
  have colon : skipBlank (':' :: others) = ':' :: others := skipBlank_cons (by decide)
  have comma : skipBlank (',' :: after) = ',' :: after := skipBlank_cons (by decide)
  simp only [readPairs, keyRead, colon, read, comma, othersRead, bind, Except.bind, pure,
    Except.pure]

/-- An integer has none of the marks of texts, lists and objects. -/
theorem readValue_integerText
    (number : Int) :
    readValue (fuel + 1) (Text.integerText number ++ rest) =
      readScalar (Text.integerText number ++ rest) := by
  obtain ⟨c, more, shape, begins⟩ := integerText_begins number
  have notMark (mark : Char) (notMinus : mark ≠ '-') (noDigit : mark.isDigit = false) :
      ∀ after, Text.integerText number ++ rest = mark :: after → False := by
    intro after same
    rw [shape, List.cons_append] at same
    rcases begins with minus | digit
    · exact notMinus ((List.cons.inj same).1.symm.trans minus)
    · rw [(List.cons.inj same).1, noDigit] at digit
      cases digit
  rw [readValue]
  · exact notMark '"' (by decide) (by decide)
  · exact notMark '[' (by decide) (by decide)
  · exact notMark '\x7b' (by decide) (by decide)

theorem readValue_string
    {content : Wording}
    (read : readString text = .ok (content, rest)) :
    readValue (fuel + 1) ('"' :: text) = .ok (.text content, rest) := by
  simp only [readValue, read, bind, Except.bind, pure, Except.pure]

theorem readValue_list
    {items : List Value}
    (begins : BeginsValue (skipBlank text))
    (read : readItems fuel (skipBlank text) = .ok (items, rest)) :
    readValue (fuel + 1) ('[' :: text) = .ok (.list items, rest) := by
  obtain ⟨c, more, shape, _, notBracket⟩ := begins
  rw [shape] at read
  simp only [readValue, shape]
  split
  · rename_i same
    exact absurd (List.cons.inj same).1 notBracket
  · simp only [read, bind, Except.bind, pure, Except.pure]

theorem readValue_object
    {pairs : Fields Value}
    (begins : skipBlank text = '"' :: others)
    (read : readPairs fuel ('"' :: others) = .ok (pairs, rest)) :
    readValue (fuel + 1) ('\x7b' :: text) = .ok (.object (Fields.ofPairs pairs), rest) := by
  simp only [readValue, begins]
  split
  · rename_i same
    exact absurd (List.cons.inj same).1 (by decide)
  · simp only [read, bind, Except.bind, pure, Except.pure]

end Steps

section Members

variable {style : Style} {level fuel : Nat} {closing rest : List Char}

/-- After a separator come white space and the next item. -/
theorem writeItems_cons
    {blanks : List Char}
    (separator : style.itemSeparator.toList = ',' :: blanks)
    (next : Value)
    (others : List Value) :
    writeItems style level (next :: others) =
      ',' :: (blanks ++ (lineBreak style level ++
        (writeValue style level next ++ writeItems style level others))) := by
  simp [writeItems, separator]

/-- Items are read from their texts up to the closing bracket. -/
theorem readItems_written
    (separates : style.Separates)
    {item : Value}
    {items : List Value}
    (writable : ∀ value ∈ item :: items, Writable value)
    (readsBack : ∀ value ∈ item :: items, ReadsBack style value)
    (blank : ∀ c ∈ closing, isBlank c = true)
    (enough : (writeValue style level item ++ writeItems style level items).length < fuel) :
    readItems fuel
        (writeValue style level item ++
          (writeItems style level items ++ (closing ++ ']' :: rest))) =
      .ok (item :: items, rest) := by
  induction items generalizing item fuel with
  | nil =>
      cases fuel with
      | zero => exact absurd enough (Nat.not_lt_zero _)
      | succ fuel =>
          rw [writeItems, List.append_nil] at enough
          obtain ⟨itemReads, _⟩ := List.forall_mem_cons.mp readsBack
          apply readItems_of_bracket (itemReads (Nat.le_of_lt_succ enough)
            (endsValue_blanks blank (endsValue_cons (by decide))))
          exact skipBlank_append_cons blank (by decide)
  | cons next others inductionHypothesis =>
      cases fuel with
      | zero => exact absurd enough (Nat.not_lt_zero _)
      | succ fuel =>
          obtain ⟨blanks, separator, separatorBlank⟩ := separates.item
          obtain ⟨_, othersWritable⟩ := List.forall_mem_cons.mp writable
          obtain ⟨itemReads, othersRead⟩ := List.forall_mem_cons.mp readsBack
          have nextBegins := beginsValue_writeValue style level
            (othersWritable next List.mem_cons_self)
          rw [writeItems_cons separator] at enough ⊢
          simp only [List.append_assoc, List.cons_append, List.length_append,
            List.length_cons] at enough ⊢
          apply readItems_of_comma (itemReads (by omega) (endsValue_cons (by decide)))
          rw [skipBlank_append separatorBlank, skipBlank_append isBlank_of_mem_lineBreak,
            nextBegins.skipBlank_eq]
          apply inductionHypothesis othersWritable othersRead
          rw [List.length_append]
          omega

/-- A field is its key, a colon, white space and its value. -/
theorem stringText_append_keySeparator
    {blanks : List Char}
    (separator : style.keySeparator.toList = ':' :: blanks)
    (key : String)
    (text : List Char) :
    stringText style.asciiOnly (.whole key) ++ (style.keySeparator.toList ++ text) =
      '"' :: (stringBody style.asciiOnly (.whole key) ++ '"' :: ':' :: (blanks ++ text)) := by
  simp [stringText, separator]

/-- After a separator come white space and the next field. -/
theorem writeFields_cons
    {blanks : List Char}
    (separator : style.itemSeparator.toList = ',' :: blanks)
    (next : Wording × Value)
    (others : Fields Value) :
    writeFields style level (next :: others) =
      ',' :: (blanks ++ (lineBreak style level ++ (stringText style.asciiOnly next.1 ++
        (style.keySeparator.toList ++ (writeValue style level next.2 ++
          writeFields style level others))))) := by
  simp [writeFields, separator]

/-- A value that is read back is read after white space, too. -/
theorem readValue_afterBlanks
    {blanks : List Char}
    {value : Value}
    (blank : ∀ c ∈ blanks, isBlank c = true)
    (writable : Writable value)
    (readsBack : ReadsBack style value)
    (enough : (writeValue style level value).length ≤ fuel)
    (ends : EndsValue rest) :
    readValue fuel (skipBlank (blanks ++ (writeValue style level value ++ rest))) =
      .ok (value, rest) := by
  have begins : BeginsValue (writeValue style level value) :=
    beginsValue_writeValue style level writable
  rw [skipBlank_append blank, begins.skipBlank_eq]
  exact readsBack enough ends

/-- Fields are read from their texts up to the closing brace. -/
theorem readPairs_written
    (separates : style.Separates)
    {field : Wording × Value}
    {fields : Fields Value}
    (wholeKeys : ∀ entry ∈ field :: fields, ∃ key : String, entry.1 = .whole key)
    (writable : ∀ entry ∈ field :: fields, Writable entry.2)
    (readsBack : ∀ entry ∈ field :: fields, ReadsBack style entry.2)
    (blank : ∀ c ∈ closing, isBlank c = true)
    (enough :
      (stringText style.asciiOnly field.1 ++ (style.keySeparator.toList ++
        (writeValue style level field.2 ++ writeFields style level fields))).length < fuel) :
    readPairs fuel
        (stringText style.asciiOnly field.1 ++ (style.keySeparator.toList ++
          (writeValue style level field.2 ++
            (writeFields style level fields ++ (closing ++ '\x7d' :: rest))))) =
      .ok (field :: fields, rest) := by
  obtain ⟨keyBlanks, keySeparator, keyBlank⟩ := separates.key
  obtain ⟨blanks, separator, separatorBlank⟩ := separates.item
  induction fields generalizing field fuel with
  | nil =>
      cases fuel with
      | zero => exact absurd enough (Nat.not_lt_zero _)
      | succ fuel =>
          obtain ⟨name, value⟩ := field
          obtain ⟨⟨key, rfl⟩, _⟩ := List.forall_mem_cons.mp wholeKeys
          have ends : EndsValue (closing ++ '\x7d' :: rest) :=
            endsValue_blanks blank (endsValue_cons (by decide))
          simp only [writeFields, List.append_nil, List.nil_append, List.length_append]
            at enough ⊢
          rw [stringText_append_keySeparator keySeparator]
          apply readPairs_of_brace (readString_stringBody style.asciiOnly key _)
            (readValue_afterBlanks keyBlank (writable _ List.mem_cons_self)
              (readsBack _ List.mem_cons_self) (by dsimp only; omega) ends)
          exact skipBlank_append_cons blank (by decide)
  | cons next others inductionHypothesis =>
      cases fuel with
      | zero => exact absurd enough (Nat.not_lt_zero _)
      | succ fuel =>
          obtain ⟨name, value⟩ := field
          obtain ⟨⟨key, rfl⟩, othersWhole⟩ := List.forall_mem_cons.mp wholeKeys
          have nextBegins (text : List Char) :
              skipBlank (stringText style.asciiOnly next.1 ++ text) =
                stringText style.asciiOnly next.1 ++ text :=
            skipBlank_cons (by decide)
          simp only [writeFields_cons separator, List.append_assoc, List.cons_append,
            List.length_append, List.length_cons] at enough ⊢
          rw [stringText_append_keySeparator keySeparator]
          apply readPairs_of_comma (readString_stringBody style.asciiOnly key _)
            (readValue_afterBlanks keyBlank (writable _ List.mem_cons_self)
              (readsBack _ List.mem_cons_self) (by dsimp only; omega)
              (endsValue_cons (by decide)))
          rw [skipBlank_append separatorBlank, skipBlank_append isBlank_of_mem_lineBreak,
            nextBegins]
          apply inductionHypothesis othersWhole (List.forall_mem_cons.mp writable).2
            (List.forall_mem_cons.mp readsBack).2
          simp only [List.length_append]
          omega

end Members

section Documents

variable {style : Style} {value : Value}

theorem readsBack_integer
    {number : Int}
    (short : (Text.naturalText number.natAbs).length ≤ Text.maxDigits) :
    ReadsBack style (.integer number) := by
  intro level fuel rest enough ends
  have positive := length_writeValue_pos style level (Writable.integer short)
  cases fuel with
  | zero => exact absurd (Nat.lt_of_lt_of_le positive enough) (Nat.lt_irrefl _)
  | succ fuel =>
      rw [writeValue, readValue_integerText number]
      exact readScalar_integerText short ends

theorem readsBack_text
    (content : String) :
    ReadsBack style (.text content) := by
  intro level fuel rest enough ends
  cases fuel with
  | zero => cases enough
  | succ fuel =>
      rw [writeValue, stringText, List.cons_append, List.append_assoc, List.singleton_append]
      exact readValue_string (readString_stringBody style.asciiOnly content rest)

theorem readsBack_list
    {items : List Value}
    (separates : style.Separates)
    (writable : ∀ item ∈ items, Writable item)
    (readsBack : ∀ item ∈ items, ReadsBack style item) :
    ReadsBack style (.list items) := by
  intro level fuel rest enough ends
  cases fuel with
  | zero => cases items <;> cases enough
  | succ fuel =>
      cases items with
      | nil => rfl
      | cons item others =>
          have itemBegins := beginsValue_writeValue style (level + 1)
            (writable item List.mem_cons_self)
          have inside (text : List Char) :
              skipBlank (lineBreak style (level + 1) ++
                (writeValue style (level + 1) item ++ text)) =
              writeValue style (level + 1) item ++ text := by
            rw [skipBlank_append isBlank_of_mem_lineBreak, itemBegins.skipBlank_eq]
          simp only [writeValue, List.append_assoc, List.cons_append, List.nil_append,
            List.length_cons, List.length_append] at enough ⊢
          apply readValue_list
          · rw [inside]
            exact itemBegins.append _
          · rw [inside]
            apply readItems_written separates writable readsBack isBlank_of_mem_lineBreak
            rw [List.length_append]
            omega

theorem readsBack_object
    {fields : Fields Value}
    (separates : style.Separates)
    (wholeKeys : ∀ field ∈ fields, ∃ key : String, field.1 = .whole key)
    (distinct : (Fields.keys fields).Nodup)
    (writable : ∀ field ∈ fields, Writable field.2)
    (readsBack : ∀ field ∈ fields, ReadsBack style field.2) :
    ReadsBack style (.object fields) := by
  intro level fuel rest enough ends
  cases fuel with
  | zero => cases fields <;> cases enough
  | succ fuel =>
      cases fields with
      | nil => rfl
      | cons field others =>
          simp only [writeValue, List.append_assoc, List.cons_append, List.nil_append,
            List.length_cons, List.length_append] at enough ⊢
          rw [← Fields.ofPairs_of_nodup distinct]
          apply readValue_object
          · rw [skipBlank_append isBlank_of_mem_lineBreak]
            exact skipBlank_cons (by decide)
          · apply readPairs_written separates wholeKeys writable readsBack
              isBlank_of_mem_lineBreak
            simp only [List.length_append]
            omega

/-- A writable value is read from its text, whatever follows that. -/
theorem readsBack_of_writable
    (separates : style.Separates)
    (writable : Writable value) :
    ReadsBack style value := by
  induction writable with
  | null =>
      intro level fuel rest enough ends
      cases fuel with
      | zero => cases enough
      | succ fuel => rfl
  | boolean truth =>
      intro level fuel rest enough ends
      cases fuel with
      | zero => cases truth <;> cases enough
      | succ fuel => cases truth <;> rfl
  | integer short => exact readsBack_integer short
  | text content => exact readsBack_text content
  | list each inductionHypothesis => exact readsBack_list separates each inductionHypothesis
  | object wholeKeys distinct each inductionHypothesis =>
      exact readsBack_object separates wholeKeys distinct each inductionHypothesis

/-- A writable document is read as the value that was written. -/
theorem read_write
    (separates : style.Separates)
    (writable : Writable value) :
    read (write style value) = .ok value := by
  have begins := beginsValue_writeValue style 0 writable
  have whole : skipBlank (writeValue style 0 value ++ []) = writeValue style 0 value ++ [] :=
    begins.skipBlank_eq
  have enough : (writeValue style 0 value).length ≤ fuelFor (writeValue style 0 value) := by
    unfold fuelFor
    omega
  have readBack := readsBack_of_writable separates writable enough endsValue_nil
  rw [List.append_nil] at whole readBack
  simp only [read, write, whole, readBack, bind, Except.bind]
  rfl

end Documents

/-- A text has no control characters. -/
def Printed (text : List Char) : Prop :=
  ∀ c ∈ text, 0x20 ≤ c.toNat

section Printed

variable {level : Nat} {value : Value} {first second text : List Char} {c : Char}

theorem printed_nil :
    Printed [] :=
  nofun

theorem printed_append_iff :
    Printed (first ++ second) ↔ Printed first ∧ Printed second :=
  List.forall_mem_append

theorem printed_cons_iff :
    Printed (c :: text) ↔ 0x20 ≤ c.toNat ∧ Printed text :=
  List.forall_mem_cons

theorem printed_of_all
    (printed : (text.all fun c => 0x20 ≤ c.toNat) = true) :
    Printed text :=
  fun c member => of_decide_eq_true (List.all_eq_true.mp printed c member)

theorem printed_integerText
    (number : Int) :
    Printed (Text.integerText number) := by
  have digits : Printed (Text.naturalText number.natAbs) := by
    intro c member
    have isDigit : c.isDigit = true := Text.isDigit_of_mem_naturalText member
    simp only [Char.isDigit, Bool.and_eq_true, decide_eq_true_eq, ge_iff_le,
      UInt32.le_iff_toNat_le] at isDigit
    exact Nat.le_trans (by decide) isDigit.1
  unfold Text.integerText
  split
  · exact printed_cons_iff.mpr ⟨by decide, digits⟩
  · exact digits

theorem printed_stringText
    {key : Wording}
    (whole : ∃ content : String, key = .whole content) :
    Printed (stringText false key) := by
  obtain ⟨content, rfl⟩ := whole
  exact fun _ => printed_of_mem_stringText

theorem printed_writeItems
    {items : List Value}
    (each : ∀ item ∈ items, Printed (writeValue .compact level item)) :
    Printed (writeItems .compact level items) := by
  induction items with
  | nil => exact printed_nil
  | cons item others inductionHypothesis =>
      obtain ⟨itemPrinted, othersPrinted⟩ := List.forall_mem_cons.mp each
      simp only [writeItems, printed_append_iff]
      have separator : Printed Style.compact.itemSeparator.toList := printed_of_all (by decide)
      exact ⟨⟨⟨separator, printed_nil⟩, itemPrinted⟩, inductionHypothesis othersPrinted⟩

theorem printed_writeFields
    {fields : Fields Value}
    (wholeKeys : ∀ field ∈ fields, ∃ key : String, field.1 = .whole key)
    (each : ∀ field ∈ fields, Printed (writeValue .compact level field.2)) :
    Printed (writeFields .compact level fields) := by
  induction fields with
  | nil => exact printed_nil
  | cons field others inductionHypothesis =>
      obtain ⟨wholeKey, othersWhole⟩ := List.forall_mem_cons.mp wholeKeys
      obtain ⟨valuePrinted, othersPrinted⟩ := List.forall_mem_cons.mp each
      simp only [writeFields, printed_append_iff]
      have separator : Printed Style.compact.itemSeparator.toList := printed_of_all (by decide)
      have colon : Printed Style.compact.keySeparator.toList := printed_of_all (by decide)
      exact ⟨⟨⟨⟨⟨separator, printed_nil⟩, printed_stringText wholeKey⟩, colon⟩,
        valuePrinted⟩, inductionHypothesis othersWhole othersPrinted⟩

/-- In the compact style no control character is written. -/
theorem printed_writeValue
    (writable : Writable value) :
    Printed (writeValue .compact level value) := by
  induction writable generalizing level with
  | null => exact printed_of_all rfl
  | boolean truth => cases truth <;> exact printed_of_all rfl
  | @integer number short => exact printed_integerText number
  | text content => exact printed_stringText ⟨content, rfl⟩
  | @list items each inductionHypothesis =>
      cases items with
      | nil => exact printed_of_all rfl
      | cons item others =>
          obtain ⟨itemPrinted, othersPrinted⟩ :=
            List.forall_mem_cons.mp fun item member => inductionHypothesis item member
          simp only [writeValue, printed_cons_iff, printed_append_iff]
          exact ⟨by decide, ⟨⟨⟨printed_nil, itemPrinted⟩,
            printed_writeItems othersPrinted⟩, printed_nil⟩, by decide, printed_nil⟩
  | @object fields wholeKeys distinct each inductionHypothesis =>
      cases fields with
      | nil => exact printed_of_all rfl
      | cons field others =>
          obtain ⟨wholeKey, othersWhole⟩ := List.forall_mem_cons.mp wholeKeys
          obtain ⟨valuePrinted, othersPrinted⟩ :=
            List.forall_mem_cons.mp fun field member => inductionHypothesis field member
          have colon : Printed Style.compact.keySeparator.toList := printed_of_all (by decide)
          simp only [writeValue, printed_cons_iff, printed_append_iff]
          exact ⟨by decide, ⟨⟨⟨⟨⟨printed_nil, printed_stringText wholeKey⟩, colon⟩,
            valuePrinted⟩, printed_writeFields othersWhole othersPrinted⟩,
            printed_nil⟩, by decide, printed_nil⟩

end Printed

end Recurrence.Json
