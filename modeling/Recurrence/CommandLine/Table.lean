namespace Recurrence.CommandLine

/-!
# The table of coming dates

A table has two columns: numbers from one on, aligned to the right in a column
as wide as the longest of them, and the dates.
-/

/-- A text with spaces before it, up to a width. -/
def alignRight (width : Nat) (text : String) : String :=
  String.ofList (text.toList.leftpad width ' ')

/-- A text with spaces after it, up to a width. -/
def alignLeft (width : Nat) (text : String) : String :=
  String.ofList (text.toList.rightpad width ' ')

/-- A horizontal line through a table, with one cell of space around both columns. -/
def ruleLine (left line middle right : Char) (numberWidth dateWidth : Nat) : String :=
  String.ofList (left :: (List.replicate (numberWidth + 2) line ++
    middle :: (List.replicate (dateWidth + 2) line ++ [right])))

/-- The width of the longest of some texts. -/
def widest (texts : List String) : Nat :=
  (texts.map String.length).foldl max 0

/-- The lines of the table of some dates. -/
def tableLines (dates : List String) : List String :=
  let numbers := (List.range' 1 dates.length).map toString
  let numberWidth := widest ("#" :: numbers)
  let dateWidth := widest ("Date" :: dates)
  let row (number date : String) : String :=
    "│ " ++ alignRight numberWidth number ++ " │ " ++ alignLeft dateWidth date ++ " │"
  [ruleLine '┏' '━' '┳' '┓' numberWidth dateWidth,
    "┃ " ++ alignRight numberWidth "#" ++ " ┃ " ++ alignLeft dateWidth "Date" ++ " ┃",
    ruleLine '┡' '━' '╇' '┩' numberWidth dateWidth] ++
    List.zipWith row numbers dates ++
    [ruleLine '└' '─' '┴' '┘' numberWidth dateWidth]

end Recurrence.CommandLine
