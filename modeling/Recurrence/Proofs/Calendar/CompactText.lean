import Recurrence.Calendar.DateText
import Recurrence.Proofs.Calendar.Anniversary
import Recurrence.Proofs.Text.FixedWidth

namespace Recurrence

/-!
# Dates in compact form

Eight digits name a date if their first four are its year, the next two its month and
the last two its day.  Writing and reading the compact form undo each other, and
dates are ordered as their compact forms are.
-/

/-- Eight ASCII digits are the year, the month and the day of a date. -/
structure CompactlyNames (text : List Char) (date : Date) : Prop where
  width : text.length = 8
  allDigits : Text.AllDigits text
  year : (Text.naturalOfDigits (text.take 4) : Int) = date.year
  month : Text.naturalOfDigits ((text.drop 4).take 2) = date.month
  day : Text.naturalOfDigits (text.drop 6) = date.day

namespace Date

section Parts

variable (date : Date)

theorem length_year :
    (Text.paddedText 4 date.year.toNat).length = 4 := by
  have range := date.year_range
  exact Text.length_paddedText (by decide) (by omega)

theorem length_month :
    (Text.paddedText 2 date.month).length = 2 := by
  have range := date.month_range
  exact Text.length_paddedText (by decide) (by omega)

theorem length_day :
    (Text.paddedText 2 date.day).length = 2 := by
  have range := date.day_range
  have atMost := monthLength_le date.year date.month
  exact Text.length_paddedText (by decide) (by omega)

theorem length_compact :
    date.compact.length = 8 := by
  rw [compact, List.length_append, List.length_append, length_year, length_month, length_day]

theorem allDigits_compact :
    Text.AllDigits date.compact := by
  rw [compact, Text.allDigits_append, Text.allDigits_append]
  exact ⟨⟨Text.allDigits_paddedText _ _, Text.allDigits_paddedText _ _⟩,
    Text.allDigits_paddedText _ _⟩

/-- The compact form of a date names it. -/
theorem compactlyNames_compact :
    CompactlyNames date.compact date := by
  have shape :
      date.compact =
        Text.paddedText 4 date.year.toNat ++
          (Text.paddedText 2 date.month ++ Text.paddedText 2 date.day) :=
    List.append_assoc _ _ _
  have afterYear :
      date.compact.drop 4 = Text.paddedText 2 date.month ++ Text.paddedText 2 date.day := by
    rw [shape, List.drop_left' date.length_year]
  refine ⟨date.length_compact, date.allDigits_compact, ?_, ?_, ?_⟩
  · rw [shape, List.take_left' date.length_year, Text.naturalOfDigits_paddedText]
    exact Int.toNat_of_nonneg (by have := date.year_range; omega)
  · rw [afterYear, List.take_left' date.length_month, Text.naturalOfDigits_paddedText]
  · have sixth : date.compact.drop 6 = (date.compact.drop 4).drop 2 := by
      rw [List.drop_drop]
    rw [sixth, afterYear, List.drop_left' date.length_month, Text.naturalOfDigits_paddedText]

/-- The number that the compact form of a date writes. -/
theorem naturalOfDigits_compact :
    Text.naturalOfDigits date.compact =
      10000 * date.year.toNat + 100 * date.month + date.day := by
  rw [compact, Text.naturalOfDigits_append, Text.naturalOfDigits_append,
    Text.naturalOfDigits_paddedText, Text.naturalOfDigits_paddedText,
    Text.naturalOfDigits_paddedText, length_month, length_day]
  omega

end Parts

/-- What names a date is its compact form. -/
theorem compact_of_compactlyNames
    {text : List Char}
    {date : Date}
    (named : CompactlyNames text date) :
    date.compact = text := by
  have width := named.width
  have filled
      (digits : List Char)
      (inText : ∀ c ∈ digits, c ∈ text)
      (positive : 0 < digits.length) :
      Text.paddedText digits.length (Text.naturalOfDigits digits) = digits :=
    Text.paddedText_naturalOfDigits (fun c member => named.allDigits c (inText c member)) positive
  have yearText : Text.paddedText 4 date.year.toNat = text.take 4 := by
    have length : (text.take 4).length = 4 := by rw [List.length_take]; omega
    have padded := filled (text.take 4) (fun c => List.mem_of_mem_take) (by omega)
    rwa [length, ← Int.toNat_natCast (Text.naturalOfDigits _), named.year] at padded
  have monthText : Text.paddedText 2 date.month = (text.drop 4).take 2 := by
    have length : ((text.drop 4).take 2).length = 2 := by
      rw [List.length_take, List.length_drop]; omega
    have padded :=
      filled ((text.drop 4).take 2)
        (fun c member => List.mem_of_mem_drop (List.mem_of_mem_take member)) (by omega)
    rwa [length, named.month] at padded
  have dayText : Text.paddedText 2 date.day = text.drop 6 := by
    have length : (text.drop 6).length = 2 := by rw [List.length_drop]; omega
    have padded := filled (text.drop 6) (fun c => List.mem_of_mem_drop) (by omega)
    rwa [length, named.day] at padded
  calc
    date.compact = text.take 4 ++ (text.drop 4).take 2 ++ text.drop 6 := by
      rw [compact, yearText, monthText, dayText]
    _ = text.take 4 ++ ((text.drop 4).take 2 ++ (text.drop 4).drop 2) := by
      rw [List.append_assoc, List.drop_drop]
    _ = text := by
      rw [List.take_append_drop, List.take_append_drop]

/-- Eight digits are read as the date of their three parts. -/
theorem ofCompact?_of_digits
    {text : List Char}
    (width : text.length = 8)
    (allDigits : Text.AllDigits text) :
    ofCompact? text =
      ofYearMonthDay? (Text.naturalOfDigits (text.take 4))
        (Text.naturalOfDigits ((text.drop 4).take 2)) (Text.naturalOfDigits (text.drop 6)) := by
  match text, width with
  | [y1, y2, y3, y4, m1, m2, d1, d2], _ =>
      exact if_pos (List.all_eq_true.mpr allDigits)

/-- What is read in compact form has eight digits. -/
theorem digits_of_ofCompact?
    {text : List Char}
    {date : Date}
    (read : ofCompact? text = some date) :
    text.length = 8 ∧ Text.AllDigits text := by
  unfold ofCompact? at read
  split at read
  · rw [ofDigits?] at read
    split at read
    · rename_i allDigits
      exact ⟨rfl, List.all_eq_true.mp allDigits⟩
    · cases read
  · cases read

/-- A text is read in compact form as the date that it names. -/
theorem ofCompact?_eq_some_iff
    {text : List Char}
    {date : Date} :
    ofCompact? text = some date ↔ CompactlyNames text date := by
  constructor
  · intro read
    obtain ⟨width, allDigits⟩ := digits_of_ofCompact? read
    rw [ofCompact?_of_digits width allDigits, ofYearMonthDay?_eq_some_iff] at read
    obtain ⟨year, month, day⟩ := read
    exact ⟨width, allDigits, year.symm, month.symm, day.symm⟩
  · rintro ⟨width, allDigits, year, month, day⟩
    rw [ofCompact?_of_digits width allDigits, ofYearMonthDay?_eq_some_iff]
    exact ⟨year.symm, month.symm, day.symm⟩

/-- A date in an earlier month of the same year is an earlier date. -/
theorem lt_of_month_lt
    {earlier later : Date}
    (sameYear : earlier.year = later.year)
    (before : earlier.month < later.month) :
    earlier < later := by
  have monthsApart := daysBeforeMonth_le later.year earlier.month_range.1 before
  have withinEarlier := earlier.day_range.2
  have withinLater := later.day_range.1
  rw [sameYear] at withinEarlier
  rw [lt_iff, number, number, sameYear]
  omega

/-- Dates are ordered by year, then by month, then by day. -/
theorem lt_of_parts_lt
    {earlier later : Date}
    (before : 10000 * earlier.year.toNat + 100 * earlier.month + earlier.day <
      10000 * later.year.toNat + 100 * later.month + later.day) :
    earlier < later := by
  have earlierYear := earlier.year_range
  have laterYear := later.year_range
  have earlierMonth := earlier.month_range
  have laterMonth := later.month_range
  have earlierDay := earlier.day_range
  have laterDay := later.day_range
  have earlierLength := monthLength_le earlier.year earlier.month
  have laterLength := monthLength_le later.year later.month
  rcases Int.lt_trichotomy earlier.year later.year with less | sameYear | greater
  · exact lt_of_year_lt less
  · rcases Nat.lt_trichotomy earlier.month later.month with less | sameMonth | greater
    · exact lt_of_month_lt sameYear less
    · rw [lt_iff, number, number, sameYear, sameMonth]
      omega
    · omega
  · omega

/-- Dates are ordered as the numbers that their compact forms write. -/
theorem lt_iff_naturalOfDigits_compact
    {earlier later : Date} :
    earlier < later ↔
      Text.naturalOfDigits earlier.compact < Text.naturalOfDigits later.compact := by
  constructor
  · intro before
    rcases Nat.lt_trichotomy (Text.naturalOfDigits earlier.compact)
      (Text.naturalOfDigits later.compact) with less | same | greater
    · exact less
    · have sameText :=
        Text.eq_of_naturalOfDigits_eq earlier.allDigits_compact later.allDigits_compact
          (by rw [length_compact, length_compact]) same
      have sameDate : some earlier = some later := by
        rw [← ofCompact?_eq_some_iff.mpr earlier.compactlyNames_compact, sameText,
          ofCompact?_eq_some_iff.mpr later.compactlyNames_compact]
      rw [Option.some.inj sameDate, lt_iff] at before
      omega
    · rw [naturalOfDigits_compact, naturalOfDigits_compact] at greater
      have after := lt_of_parts_lt greater
      rw [lt_iff] at before after
      omega
  · intro less
    rw [naturalOfDigits_compact, naturalOfDigits_compact] at less
    exact lt_of_parts_lt less

/-- Dates are ordered as their compact forms. -/
theorem lt_iff_compact_lt
    {earlier later : Date} :
    earlier < later ↔ earlier.compact < later.compact := by
  rw [lt_iff_naturalOfDigits_compact,
    Text.lt_iff_naturalOfDigits_lt earlier.allDigits_compact later.allDigits_compact
      (by rw [length_compact, length_compact])]

end Date

end Recurrence
