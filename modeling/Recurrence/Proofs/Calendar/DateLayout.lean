import Mathlib.Data.List.Perm.Basic
import Recurrence.Proofs.Calendar.PlainText

namespace Recurrence

/-!
# Layouts of year, month and day

A date layout asks for year, month and day, each once, in any order and with plain text around
them.  It writes a month and a day with two digits, and these are what it tries first when it
reads, so that it reads the dates it writes if their years have four digits.  A year before 1000
is written with fewer digits and cannot be read back when no digit comes after it.
-/

/-- The parts of a date that a layout asks for. -/
inductive DatePart where
  | year
  | month
  | day
  deriving Repr, DecidableEq

namespace DatePart

/-- The directive that stands for a part. -/
def directive : DatePart → Directive
  | .year => .year
  | .month => .month
  | .day => .day

/-- The letter that names a part after a percent sign. -/
def letter : DatePart → Char
  | .year => 'Y'
  | .month => 'm'
  | .day => 'd'

/-- The number of a part of a date. -/
def number (date : Date) : DatePart → Nat
  | .year => date.year.toNat
  | .month => date.month
  | .day => date.day

theorem ofLetter_letter
    (part : DatePart) :
    Piece.ofLetter part.letter = .field part.directive := by
  cases part <;> rfl

variable {date : Date}

/-- Two digits are written for a number below 100. -/
theorem exists_pair
    (number : Nat)
    (few : number < 100) :
    ∃ a b, Text.paddedText 2 number = [a, b] ∧ a.isDigit = true ∧ b.isDigit = true ∧
      Text.naturalOfDigits [a, b] = number := by
  have width : (Text.paddedText 2 number).length = 2 :=
    Text.length_paddedText (by decide) few
  obtain ⟨a, b, pair⟩ := List.length_eq_two.mp width
  have allDigits := Text.allDigits_paddedText 2 number
  have value := Text.naturalOfDigits_paddedText 2 number
  rw [pair] at allDigits value
  exact ⟨a, b, pair, allDigits.head, allDigits.tail.head, value⟩

/-- A month and a day are written with two digits, and read as two digits or as one. -/
theorem exists_pairReadings
    (date : Date)
    {part : DatePart}
    (notYear : part ≠ .year) :
    ∃ greatest a b, part.directive.render date = [a, b] ∧ b.isDigit = true ∧
      Text.naturalOfDigits [a, b] = part.number date ∧
      (1 ≤ part.number date ∧ part.number date ≤ greatest) ∧
      ∀ rest, part.directive.readings (a :: b :: rest) =
        Directive.pairReadings greatest a b rest := by
  cases part with
  | year => exact (notYear rfl).elim
  | month =>
      have range := date.month_range
      obtain ⟨a, b, pair, aDigit, bDigit, value⟩ := exists_pair date.month (by omega)
      exact ⟨12, a, b, pair, bDigit, value, range,
        fun _ => Directive.readings_month aDigit bDigit⟩
  | day =>
      have range : 1 ≤ date.day ∧ date.day ≤ 31 :=
        ⟨date.day_range.1, Nat.le_trans date.day_range.2 (monthLength_le _ _)⟩
      obtain ⟨a, b, pair, aDigit, bDigit, value⟩ := exists_pair date.day (by omega)
      exact ⟨31, a, b, pair, bDigit, value, range,
        fun _ => Directive.readings_day aDigit bDigit⟩

theorem allDigits_year
    (date : Date) :
    Text.AllDigits (Text.naturalText date.year.toNat) :=
  fun _ member => Text.isDigit_of_mem_naturalText member

/-- A year has four digits from 1000 on, and less before. -/
theorem length_naturalText_year_lt_iff
    (date : Date) :
    (Text.naturalText date.year.toNat).length < 4 ↔ date.year < 1000 := by
  have range := date.year_range
  have few : (Text.naturalText date.year.toNat).length ≤ 3 ↔ date.year.toNat < 10 ^ 3 :=
    Nat.length_toDigits_le_iff (by decide) (by decide)
  omega

/-- What is written is what is tried first, if the year has four digits. -/
theorem readings_render
    (late : 1000 ≤ date.year)
    (part : DatePart)
    (rest : List Char) :
    ∃ others, part.directive.readings (part.directive.render date ++ rest) =
      (part.number date, rest) :: others := by
  by_cases isYear : part = .year
  · subst isYear
    have width : (Text.naturalText date.year.toNat).length = 4 := by
      have range := date.year_range
      have atLeast := length_naturalText_year_lt_iff date
      have atMost : (Text.naturalText date.year.toNat).length ≤ 4 ↔ date.year.toNat < 10 ^ 4 :=
        Nat.length_toDigits_le_iff (by decide) (by decide)
      omega
    refine ⟨[], ?_⟩
    rw [directive, Directive.render, Directive.readings_year (allDigits_year date) width,
      Text.naturalOfDigits_naturalText, number]
  · obtain ⟨greatest, a, b, pair, _, value, inRange, readings⟩ :=
      exists_pairReadings date isYear
    rw [← value] at inRange ⊢
    rw [pair, List.cons_append, List.cons_append, List.nil_append, readings]
    exact Directive.pairReadings_of_range inRange

/-- A year before 1000 is not read where no digit comes after it. -/
theorem readings_render_year
    {rest : List Char}
    (early : date.year < 1000)
    (noDigit : ∀ c ∈ rest.head?, DigitClass.decimal.value? c = none) :
    Directive.year.readings (Directive.year.render date ++ rest) = [] := by
  have unread :=
    DigitClass.readNumber?_decimal_few (allDigits_year date)
      ((length_naturalText_year_lt_iff date).mpr early) noDigit 0
  rw [Directive.readings_of_nameless rfl]
  simp only [Directive.shapes, List.filterMap_cons, List.filterMap_nil]
  rw [Directive.render]
  simp only [List.replicate] at unread
  rw [unread]

end DatePart

/-- A part of a date, and the plain text after it. -/
structure LaidField where
  part : DatePart
  literal : List Char
  plain : ∀ c ∈ literal, IsPlain c

namespace LaidField

/-- The pattern text for a field. -/
def spelled (field : LaidField) : List Char :=
  '%' :: field.part.letter :: field.literal

/-- The pieces of the pattern for a field. -/
def pieces (field : LaidField) : List Piece :=
  .field field.part.directive :: field.literal.map Piece.literal

/-- A field filled in for a date. -/
def written (date : Date) (field : LaidField) : List Char :=
  field.part.directive.render date ++ field.literal

/-- The part of a date that a field asks for. -/
def numbered (date : Date) (field : LaidField) : Directive × Nat :=
  (field.part.directive, field.part.number date)

variable {fields : List LaidField} {date : Date}

theorem piecesOf_spelled
    (fields : List LaidField) :
    Pattern.piecesOf (fields.flatMap spelled) = fields.flatMap pieces := by
  induction fields with
  | nil => rfl
  | cons field fields inductionHypothesis =>
      calc
        Pattern.piecesOf ((field :: fields).flatMap spelled) =
            Piece.ofLetter field.part.letter ::
              Pattern.piecesOf (field.literal ++ fields.flatMap spelled) :=
          rfl
        _ = .field field.part.directive ::
              (field.literal.map Piece.literal ++ fields.flatMap pieces) := by
          rw [field.part.ofLetter_letter, Pattern.piecesOf_literal field.plain,
            inductionHypothesis]
        _ = (field :: fields).flatMap pieces := rfl

theorem render_pieces
    (date : Date)
    (field : LaidField) :
    (field.pieces.flatMap fun piece => piece.render date) = field.written date := by
  rw [pieces, List.flatMap_cons, Pattern.render_literal]
  rfl

/-- Fields are read from what is written for a year of four digits. -/
theorem readPieces?_written
    (late : 1000 ≤ date.year)
    (fields : List LaidField) :
    Pattern.readPieces? (fields.flatMap pieces) (fields.flatMap (written date)) =
      some (fields.map (numbered date), []) := by
  induction fields with
  | nil => rfl
  | cons field fields inductionHypothesis =>
      obtain ⟨others, first⟩ :=
        field.part.readings_render late (field.literal ++ fields.flatMap (written date))
      have throughOthers :
          Pattern.readPieces? (field.literal.map Piece.literal ++ fields.flatMap pieces)
              (field.literal ++ fields.flatMap (written date)) =
            some (fields.map (numbered date), []) := by
        rw [Pattern.readPieces?_literal, inductionHypothesis]
      rw [List.flatMap_cons, List.flatMap_cons, written, List.append_assoc]
      exact Pattern.readPieces?_field first throughOthers

/-- Text without digits stands after the fields, and there is some between any two. -/
structure Separated (fields : List LaidField) : Prop where
  noDigit : ∀ field ∈ fields, ∀ c ∈ field.literal, c.isDigit = false
  apart : ∀ field ∈ fields.dropLast, field.literal ≠ []

section Separation

variable {field : LaidField}

theorem Separated.tail
    (separated : Separated (field :: fields)) :
    Separated fields where
  noDigit other member := separated.noDigit other (List.mem_cons_of_mem field member)
  apart other member := by
    cases fields with
    | nil => cases member
    | cons next fields => exact separated.apart other (List.mem_cons_of_mem field member)

/-- Text comes after a field that is not the last one. -/
theorem Separated.exists_literal
    (separated : Separated (field :: fields))
    (notLast : fields ≠ []) :
    ∃ c literal, field.literal = c :: literal ∧ IsPlain c ∧ c.isDigit = false := by
  have member : field ∈ (field :: fields).dropLast := by
    rw [List.dropLast_cons_of_ne_nil notLast]
    exact List.mem_cons_self
  obtain ⟨c, literal, shape⟩ := List.exists_cons_of_ne_nil (separated.apart field member)
  have inLiteral : c ∈ field.literal := by
    rw [shape]
    exact List.mem_cons_self
  exact ⟨c, literal, shape, field.plain c inLiteral,
    separated.noDigit field List.mem_cons_self c inLiteral⟩

/-- No digit comes right after a field. -/
theorem Separated.noDigit_after
    (separated : Separated (field :: fields)) :
    ∀ c ∈ (field.literal ++ fields.flatMap (written date)).head?,
      DigitClass.decimal.value? c = none := by
  intro c first
  cases shape : field.literal with
  | nil =>
      by_cases isLast : fields = []
      · rw [shape, isLast] at first
        cases first
      · obtain ⟨c, literal, nonempty, _⟩ := separated.exists_literal isLast
        rw [shape] at nonempty
        cases nonempty
  | cons other literal =>
      rw [shape] at first
      cases first
      have inLiteral : c ∈ field.literal := by
        rw [shape]
        exact List.mem_cons_self
      exact (field.plain c inLiteral).value?_decimal
        (separated.noDigit field List.mem_cons_self c inLiteral)

/-- No way leads through fields if the year among them was written with too few digits. -/
theorem readPieces?_written_early
    (early : date.year < 1000)
    (asksYear : .year ∈ fields.map part)
    (separated : Separated fields) :
    Pattern.readPieces? (fields.flatMap pieces) (fields.flatMap (written date)) = none := by
  induction fields with
  | nil => cases asksYear
  | cons field fields inductionHypothesis =>
      rw [List.flatMap_cons, List.flatMap_cons, pieces, written, List.cons_append,
        List.append_assoc]
      apply Pattern.readPieces?_field_eq_none
      intro number following reading
      by_cases isYear : field.part = .year
      · rw [isYear] at reading
        cases (DatePart.readings_render_year early separated.noDigit_after) ▸ reading
      · have inRest : .year ∈ fields.map part :=
          List.mem_of_ne_of_mem (Ne.symm isYear) asksYear
        have notLast : fields ≠ [] := by
          rintro rfl
          cases inRest
        obtain ⟨c, literal, shape, plain, notDigit⟩ := separated.exists_literal notLast
        obtain ⟨greatest, a, b, pair, bDigit, _, _, readings⟩ :=
          DatePart.exists_pairReadings date isYear
        rw [pair, List.cons_append, List.cons_append, List.nil_append, readings] at reading
        rcases Directive.mem_pairReadings reading with ⟨_, _, rfl⟩ | rfl
        · rw [Pattern.readPieces?_literal]
          exact inductionHypothesis inRest separated.tail
        · -- The digit that is left is no part of the text after the field.
          rw [shape]
          exact Pattern.readPieces?_literal_ne (plain.caseKey_ne notDigit bDigit) _ _

end Separation

end LaidField

/-- What is asked for last is what is there, if there is one of the kind. -/
theorem DateFields.last?_eq_some
    {fields : DateFields}
    {isWanted : Directive → Bool}
    {field : Directive × Nat}
    (member : field ∈ fields)
    (wanted : isWanted field.1 = true)
    (unique : ∀ other ∈ fields, isWanted other.1 = true → other = field) :
    fields.last? isWanted = some field := by
  rw [last?]
  cases found : fields.reverse.find? fun other => isWanted other.1 with
  | none =>
      have unwanted := List.find?_eq_none.mp found field (List.mem_reverse.mpr member)
      exact (unwanted wanted).elim
  | some other =>
      have isOther := List.mem_reverse.mp (List.mem_of_find?_eq_some found)
      have otherWanted := List.find?_some found
      rw [unique other isOther otherWanted]

/-- Year, month and day in some order, with plain text before the first and after each. -/
structure DateLayout where
  lead : List Char
  fields : List LaidField
  plain : ∀ c ∈ lead, IsPlain c
  eachOnce : (fields.map LaidField.part).Perm [.year, .month, .day]

namespace DateLayout

/-- The pattern text of a layout. -/
def text (layout : DateLayout) : List Char :=
  layout.lead ++ layout.fields.flatMap LaidField.spelled

variable {layout : DateLayout} {date : Date}

theorem mem_parts
    (layout : DateLayout)
    (part : DatePart) :
    part ∈ layout.fields.map LaidField.part := by
  rw [layout.eachOnce.mem_iff]
  cases part <;> decide

theorem pieces_ofText
    (layout : DateLayout) :
    (Pattern.ofText layout.text).pieces =
      layout.lead.map Piece.literal ++ layout.fields.flatMap LaidField.pieces := by
  rw [Pattern.ofText, text, Pattern.piecesOf_literal layout.plain,
    LaidField.piecesOf_spelled]

theorem render_ofText
    (layout : DateLayout)
    (date : Date) :
    (Pattern.ofText layout.text).render date =
      layout.lead ++ layout.fields.flatMap (LaidField.written date) := by
  rw [Pattern.render, pieces_ofText, List.flatMap_append, Pattern.render_literal,
    List.flatMap_assoc]
  simp only [LaidField.render_pieces]

/-- A part of a date is found among the parts by its directive. -/
theorem last?_numbered
    (layout : DateLayout)
    (date : Date)
    (part : DatePart)
    {isWanted : Directive → Bool}
    (wanted : ∀ other : DatePart, isWanted other.directive = true ↔ other = part) :
    DateFields.last? (layout.fields.map (LaidField.numbered date)) isWanted =
      some (part.directive, part.number date) := by
  apply DateFields.last?_eq_some
  case member =>
    obtain ⟨field, member, isPart⟩ := List.mem_map.mp (layout.mem_parts part)
    refine List.mem_map.mpr ⟨field, member, ?_⟩
    rw [LaidField.numbered, isPart]
  case wanted => exact (wanted part).mpr rfl
  case unique =>
    intro other member otherWanted
    obtain ⟨field, _, rfl⟩ := List.mem_map.mp member
    rw [LaidField.numbered, (wanted field.part).mp otherWanted]

theorem dayOfYear?_numbered
    (fields : List LaidField)
    (date : Date) :
    DateFields.dayOfYear? (fields.map (LaidField.numbered date)) = none := by
  rw [DateFields.dayOfYear?, DateFields.last?, Option.map_eq_none_iff, List.find?_eq_none]
  intro other member
  obtain ⟨field, _, rfl⟩ := List.mem_map.mp (List.mem_reverse.mp member)
  rw [LaidField.numbered]
  cases field.part <;> exact Bool.false_ne_true

/-- The parts of a date name the date. -/
theorem date?_numbered
    (layout : DateLayout)
    (date : Date) :
    DateFields.date? (layout.fields.map (LaidField.numbered date)) = some date := by
  have positive := date.year_range.1
  have yearFound :
      DateFields.year? (layout.fields.map (LaidField.numbered date)) =
        some date.year.toNat := by
    rw [DateFields.year?, layout.last?_numbered date .year (by rintro (_ | _ | _) <;> decide)]
    rfl
  have monthFound :
      DateFields.month (layout.fields.map (LaidField.numbered date)) = date.month := by
    rw [DateFields.month, layout.last?_numbered date .month (by rintro (_ | _ | _) <;> decide)]
    rfl
  have dayFound :
      DateFields.day (layout.fields.map (LaidField.numbered date)) = date.day := by
    rw [DateFields.day, layout.last?_numbered date .day (by rintro (_ | _ | _) <;> decide)]
    rfl
  rw [DateFields.date?, yearFound]
  simp only [DateFields.dateIn?, dayOfYear?_numbered, monthFound, dayFound]
  rw [Int.toNat_of_nonneg (Int.le_of_lt positive), Date.ofYearMonthDay?_self]

/-- A layout that separates its parts is longer than the compact pattern, which does not. -/
theorem text_ne_compactPattern
    (separated : LaidField.Separated layout.fields) :
    String.ofList layout.text ≠ DateFormat.compactPattern := by
  intro same
  have width : layout.text.length = 6 := by
    rw [← String.toList_ofList (l := layout.text), same]
    rfl
  have three : layout.fields.length = 3 := by
    rw [← List.length_map, layout.eachOnce.length_eq]
    rfl
  obtain ⟨first, second, third, shape⟩ := List.length_eq_three.mp three
  have nonempty : first.literal ≠ [] := by
    apply separated.apart
    rw [shape]
    exact List.mem_cons_self
  have atLeast := List.length_pos_of_ne_nil nonempty
  simp only [text, shape, List.flatMap_cons, List.flatMap_nil, LaidField.spelled,
    List.length_append, List.length_cons, List.length_nil] at width
  omega

/-- A year of four digits is read back in any layout. -/
theorem read?_write
    (layout : DateLayout)
    (late : 1000 ≤ date.year) :
    (DateFormat.ofText (String.ofList layout.text)).read?
        ((DateFormat.ofText (String.ofList layout.text)).write date) = some date := by
  rw [DateFormat.ofText]
  split
  · exact Date.ofCompact?_eq_some_iff.mpr date.compactlyNames_compact
  · have matched :
        (Pattern.ofText layout.text).fields? ((Pattern.ofText layout.text).render date) =
          some (layout.fields.map (LaidField.numbered date)) := by
      rw [Pattern.fields?_eq_some_iff, pieces_ofText, render_ofText,
        Pattern.readPieces?_literal, LaidField.readPieces?_written late]
    rw [String.toList_ofList, DateFormat.read?, DateFormat.write, matched, Option.bind_some,
      date?_numbered]

/-- A year before 1000 is not read back in a layout that separates its parts. -/
theorem read?_write_early
    (separated : LaidField.Separated layout.fields)
    (early : date.year < 1000) :
    (DateFormat.ofText (String.ofList layout.text)).read?
        ((DateFormat.ofText (String.ofList layout.text)).write date) = none := by
  have unmatched :
      (Pattern.ofText layout.text).fields? ((Pattern.ofText layout.text).render date) =
        none := by
    rw [Pattern.fields?, pieces_ofText, render_ofText, Pattern.readPieces?_literal,
      LaidField.readPieces?_written_early early (layout.mem_parts .year) separated]
  rw [DateFormat.ofText, if_neg (text_ne_compactPattern separated), String.toList_ofList,
    DateFormat.read?, DateFormat.write, unmatched, Option.bind_none]

end DateLayout

end Recurrence
