import Recurrence.Proofs.CommandLine.Arguments

namespace Recurrence.CommandLine

/-!
# The dates of a printed table

The column of dates can be read off a printed page from its end, where the table is: the rows
stand between the line that ends the page and the line below the names of the columns, and the
date is the second cell of a row.  So the page shows the dates that were to be shown.
-/

/-- The cells of a row, without the spaces around them. -/
def cells (row : List Char) : List (List Char) :=
  (((Text.splitOn '│' row).drop 1).dropLast).map Text.trim

/-- Whether a line is a row of the table. -/
def isRow (line : List Char) : Bool :=
  line.head? == some '│'

/-- The rows of the table that a page ends with. -/
def tableRows (page : List Char) : List (List Char) :=
  -- After the last line break comes nothing, and before it the lower edge of the table.
  (((Text.splitOn '\n' page).reverse.drop 2).takeWhile isRow).reverse

/-- The column of dates in the table that a page ends with. -/
def dateColumn (page : String) : List String :=
  (tableRows page.toList).map fun row => String.ofList (((cells row)[1]?).getD [])

/-- A text that is neither cut nor trimmed when it is read from its cell. -/
structure IsCell (text : List Char) : Prop where
  nonempty : text ≠ []
  dark : ∀ c ∈ text, Text.isBlank c = false
  noBar : '│' ∉ text

section Cells

variable {text : List Char}

theorem IsCell.noBreak
    (isCell : IsCell text) :
    '\n' ∉ text := by
  intro member
  have dark := isCell.dark '\n' member
  revert dark
  decide

/-- Digits are a cell. -/
theorem isCell_of_allDigits
    (allDigits : Text.AllDigits text)
    (nonempty : text ≠ []) :
    IsCell text where
  nonempty := nonempty
  dark c member := Text.isBlank_eq_false_of_isIntegerChar (Or.inr (allDigits c member))
  noBar member := absurd (allDigits '│' member) (by decide)

/-- A cell is what is left when white space around it is trimmed. -/
theorem IsCell.trim_eq
    {before after : List Char}
    (isCell : IsCell text)
    (blankBefore : ∀ c ∈ before, Text.isBlank c = true)
    (blankAfter : ∀ c ∈ after, Text.isBlank c = true) :
    Text.trim (before ++ (text ++ after)) = text := by
  have darkReversed : ∀ c ∈ text.reverse, Text.isBlank c = false :=
    fun c member => isCell.dark c (List.mem_reverse.mp member)
  have blankReversed : ∀ c ∈ after.reverse, Text.isBlank c = true :=
    fun c member => blankAfter c (List.mem_reverse.mp member)
  have start : Text.trimStart (before ++ (text ++ after)) = text ++ after := by
    rw [Text.trimStart, List.dropWhile_append_of_pos blankBefore]
    cases text with
    | nil => exact absurd rfl isCell.nonempty
    | cons c rest =>
        exact List.dropWhile_cons_of_neg (Bool.eq_false_iff.mp (isCell.dark c List.mem_cons_self))
  rw [Text.trim, start, Text.trimEnd, List.reverse_append,
    List.dropWhile_append_of_pos blankReversed, dropWhile_of_forall_eq_false darkReversed,
    List.reverse_reverse]

end Cells

/-- The numbers in front of some dates. -/
def numberTexts (dates : List String) : List String :=
  (List.range' 1 dates.length).map toString

/-- A row of the table. -/
def rowText (numberWidth dateWidth : Nat) (number date : String) : String :=
  "│ " ++ alignRight numberWidth number ++ " │ " ++ alignLeft dateWidth date ++ " │"

/-- The rows of the table of some dates. -/
def rowTexts (dates : List String) : List String :=
  List.zipWith (rowText (widest ("#" :: numberTexts dates)) (widest ("Date" :: dates)))
    (numberTexts dates) dates

section Rows

variable {number date : String} {dates : List String}

theorem isCell_of_mem_numberTexts
    (member : number ∈ numberTexts dates) :
    IsCell number.toList := by
  obtain ⟨value, _, rfl⟩ := List.mem_map.mp member
  rw [Nat.toString_eq_repr, Nat.toList_repr]
  exact isCell_of_allDigits (fun _ => Text.isDigit_of_mem_naturalText)
    (Text.naturalText_ne_nil value)

theorem toList_rowText
    (numberWidth dateWidth : Nat)
    (number date : String) :
    (rowText numberWidth dateWidth number date).toList =
      '│' :: ((' ' :: number.toList.leftpad numberWidth ' ' ++ [' ']) ++
        '│' :: ((' ' :: date.toList.rightpad dateWidth ' ' ++ [' ']) ++ '│' :: [])) := by
  simp [rowText, alignRight, alignLeft]

/-- The second cell of a row is its date. -/
theorem cells_rowText
    (numberWidth dateWidth : Nat)
    (numberIsCell : IsCell number.toList)
    (dateIsCell : IsCell date.toList) :
    (cells (rowText numberWidth dateWidth number date).toList)[1]? = some date.toList := by
  have numberFree : '│' ∉ ' ' :: number.toList.leftpad numberWidth ' ' ++ [' '] := by
    have free := numberIsCell.noBar
    simp [List.leftpad, free]
  have dateFree : '│' ∉ ' ' :: date.toList.rightpad dateWidth ' ' ++ [' '] := by
    have free := dateIsCell.noBar
    simp [List.rightpad, free]
  have cut :
      Text.splitOn '│' (rowText numberWidth dateWidth number date).toList =
        [[], ' ' :: number.toList.leftpad numberWidth ' ' ++ [' '],
          ' ' :: date.toList.rightpad dateWidth ' ' ++ [' '], []] := by
    rw [toList_rowText, Text.splitOn, if_pos rfl, Text.splitOn_append_cons numberFree,
      Text.splitOn_append_cons dateFree]
    rfl
  have padded :
      ' ' :: date.toList.rightpad dateWidth ' ' ++ [' '] =
        [' '] ++ (date.toList ++ (List.replicate (dateWidth - date.toList.length) ' ' ++ [' '])) := by
    simp [List.rightpad]
  have second :
      (cells (rowText numberWidth dateWidth number date).toList)[1]? =
        some (Text.trim (' ' :: date.toList.rightpad dateWidth ' ' ++ [' '])) := by
    rw [cells, cut]
    rfl
  have spaces : ∀ c ∈ List.replicate (dateWidth - date.toList.length) ' ' ++ [' '],
      Text.isBlank c = true := by
    intro c member
    rcases List.mem_append.mp member with inPadding | isLast
    · rw [List.eq_of_mem_replicate inPadding]
      rfl
    · rw [List.mem_singleton.mp isLast]
      rfl
  rw [second, padded, dateIsCell.trim_eq (List.all_eq_true.mp rfl) spaces]

theorem noBreak_rowText
    (numberWidth dateWidth : Nat)
    (numberIsCell : IsCell number.toList)
    (dateIsCell : IsCell date.toList) :
    '\n' ∉ (rowText numberWidth dateWidth number date).toList := by
  have numberFree := numberIsCell.noBreak
  have dateFree := dateIsCell.noBreak
  rw [toList_rowText]
  simp [List.leftpad, List.rightpad, numberFree, dateFree]

theorem toList_ruleLine
    (left line middle right : Char)
    (numberWidth dateWidth : Nat) :
    (ruleLine left line middle right numberWidth dateWidth).toList =
      left :: (List.replicate (numberWidth + 2) line ++
        middle :: (List.replicate (dateWidth + 2) line ++ [right])) := by
  rw [ruleLine, String.toList_ofList]

end Rows

section Pages

variable {dates : List String}

theorem toList_unlines
    (lines : List String) :
    (unlines lines).toList = (lines.map String.toList).flatMap fun line => line ++ ['\n'] := by
  simp [unlines, String.toList_join, List.flatMap_map]

theorem length_numberTexts
    (dates : List String) :
    (numberTexts dates).length = dates.length := by
  rw [numberTexts, List.length_map, List.length_range']

/-- Every row has a number and one of the dates. -/
theorem exists_of_mem_rowTexts
    {row : String}
    (member : row ∈ rowTexts dates) :
    ∃ number ∈ numberTexts dates, ∃ date ∈ dates,
      row = rowText (widest ("#" :: numberTexts dates)) (widest ("Date" :: dates)) number date := by
  obtain ⟨place, inRows, rfl⟩ := List.mem_iff_getElem.mp member
  rw [rowTexts, List.length_zipWith, Nat.lt_min] at inRows
  refine ⟨_, List.getElem_mem inRows.1, _, List.getElem_mem inRows.2, ?_⟩
  exact List.getElem_zipWith

theorem row_of_mem_rowTexts
    (areCells : ∀ date ∈ dates, IsCell date.toList)
    {row : List Char}
    (member : row ∈ (rowTexts dates).map String.toList) :
    '\n' ∉ row ∧ isRow row = true := by
  obtain ⟨text, inRows, rfl⟩ := List.mem_map.mp member
  obtain ⟨number, numberMember, date, dateMember, rfl⟩ := exists_of_mem_rowTexts inRows
  refine ⟨noBreak_rowText _ _ (isCell_of_mem_numberTexts numberMember)
    (areCells date dateMember), ?_⟩
  rw [toList_rowText]
  rfl

/-- Lines are cut off a text one by one, and each of them where it has line breaks itself. -/
theorem splitOn_flatMap_append
    (lines : List (List Char))
    (rest : List Char) :
    Text.splitOn '\n' ((lines.flatMap fun line => line ++ ['\n']) ++ rest) =
      lines.flatMap (Text.splitOn '\n') ++ Text.splitOn '\n' rest := by
  induction lines with
  | nil => rfl
  | cons line lines inductionHypothesis =>
      rw [List.flatMap_cons, List.flatMap_cons, List.append_assoc, List.append_assoc,
        List.singleton_append, Text.splitOn_append_separator, inductionHypothesis,
        List.append_assoc]

/-- Between the line below the names and the lower edge are the rows, whatever stands above. -/
theorem tableRows_of_lines
    {above rows : List (List Char)}
    {middle lower : List Char}
    (middleBegins : isRow middle = false)
    (rowsBegin : ∀ row ∈ rows, isRow row = true)
    (noBreak : ∀ line ∈ middle :: (rows ++ [lower]), '\n' ∉ line) :
    tableRows ((above ++ middle :: (rows ++ [lower])).flatMap fun line => line ++ ['\n']) =
      rows := by
  have reversedBegin : ∀ row ∈ rows.reverse, isRow row = true :=
    fun row member => rowsBegin row (List.mem_reverse.mp member)
  have cut :
      (Text.splitOn '\n'
          ((above ++ middle :: (rows ++ [lower])).flatMap fun line => line ++ ['\n'])).reverse =
        [] :: lower :: (rows.reverse ++ middle :: (above.flatMap (Text.splitOn '\n')).reverse) := by
    rw [List.flatMap_append, splitOn_flatMap_append, Text.splitOn_terminated noBreak]
    simp
  rw [tableRows, cut, List.drop_succ_cons, List.drop_succ_cons, List.drop_zero,
    List.takeWhile_append_of_pos reversedBegin,
    List.takeWhile_cons_of_neg (Bool.eq_false_iff.mp middleBegins), List.append_nil,
    List.reverse_reverse]

theorem noBreak_ruleLine
    {left line middle right : Char}
    (noBreak : '\n' ∉ [left, line, middle, right])
    (numberWidth dateWidth : Nat) :
    '\n' ∉ (ruleLine left line middle right numberWidth dateWidth).toList := by
  rw [toList_ruleLine]
  simp only [List.mem_cons, List.not_mem_nil, or_false, not_or] at noBreak
  simp [noBreak]

/-- The table stands at the end of a page, and its rows below the names of the columns. -/
theorem tableRows_unlines
    (heads : List String)
    (areCells : ∀ date ∈ dates, IsCell date.toList) :
    tableRows (unlines (heads ++ tableLines dates)).toList =
      (rowTexts dates).map String.toList := by
  let numberWidth := widest ("#" :: numberTexts dates)
  let dateWidth := widest ("Date" :: dates)
  let above : List String :=
    [ruleLine '┏' '━' '┳' '┓' numberWidth dateWidth,
      "┃ " ++ alignRight numberWidth "#" ++ " ┃ " ++ alignLeft dateWidth "Date" ++ " ┃"]
  let middle := ruleLine '┡' '━' '╇' '┩' numberWidth dateWidth
  let lower := ruleLine '└' '─' '┴' '┘' numberWidth dateWidth
  have lines :
      heads ++ tableLines dates = (heads ++ above) ++ middle :: (rowTexts dates ++ [lower]) := by
    rw [List.append_assoc]
    rfl
  rw [toList_unlines, lines]
  simp only [List.map_append, List.map_cons, List.map_nil]
  apply tableRows_of_lines
  case middleBegins =>
    rw [toList_ruleLine]
    rfl
  case rowsBegin => exact fun row member => (row_of_mem_rowTexts areCells member).2
  case noBreak =>
    intro line member
    rcases List.mem_cons.mp member with rfl | inTable
    · exact noBreak_ruleLine (by decide) _ _
    · rcases List.mem_append.mp inTable with isRow | isLower
      · exact (row_of_mem_rowTexts areCells isRow).1
      · rw [List.mem_singleton.mp isLower]
        exact noBreak_ruleLine (by decide) _ _

/-- A page with a table shows the dates of the table. -/
theorem dateColumn_unlines
    (heads : List String)
    (areCells : ∀ date ∈ dates, IsCell date.toList) :
    dateColumn (unlines (heads ++ tableLines dates)) = dates := by
  rw [dateColumn, tableRows_unlines heads areCells, List.map_map]
  apply List.ext_getElem
  · rw [List.length_map, rowTexts, List.length_zipWith, length_numberTexts, Nat.min_self]
  · intro place inRows inDates
    have inNumbers : place < (numberTexts dates).length := by
      rwa [length_numberTexts]
    have cell := cells_rowText (widest ("#" :: numberTexts dates)) (widest ("Date" :: dates))
      (isCell_of_mem_numberTexts (List.getElem_mem inNumbers))
      (areCells _ (List.getElem_mem inDates))
    simp only [List.getElem_map, rowTexts, List.getElem_zipWith, Function.comp_apply, cell,
      Option.getD_some, String.ofList_toList]

end Pages

end Recurrence.CommandLine
