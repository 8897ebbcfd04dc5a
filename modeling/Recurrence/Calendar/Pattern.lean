import Recurrence.Calendar.DateText
import Recurrence.Calendar.Directive
import Recurrence.Text.Blank
import Recurrence.Text.CaseFold

namespace Recurrence

/-!
# Date patterns

A pattern is text with directives such as `%Y` in it.  Reading goes through the
pieces of the pattern from left to right, tries the readings of each piece in
order, and takes the first way through; this must use up the whole text.  A run
of white space in the pattern stands for one or more white space characters, and
case does not matter.  Writing fills in the directives.
-/

/-- A piece of a date pattern. -/
inductive Piece where
  | field (directive : Directive)
  | literal (c : Char)
  | blanks (run : List Char)
  | unknown (letter : Char)
  | lonePercent
  deriving Repr, DecidableEq

/-- The parts of a date that were read, in the order of the pattern. -/
abbrev DateFields := List (Directive × Nat)

namespace Piece

/-- All ways to read one or more white space characters, the longest first. -/
def blankReadings : List Char → List (List Char)
  | [] => []
  | c :: rest => if Text.isBlank c then blankReadings rest ++ [rest] else []

/-- All ways to read a piece at the start of a text, each with what follows. -/
def readings (piece : Piece) (text : List Char) : List (DateFields × List Char) :=
  match piece with
  | .field directive =>
      (directive.readings text).map fun (number, rest) => ([(directive, number)], rest)
  | .literal letter =>
      match text with
      | c :: rest => if Text.caseKey c = Text.caseKey letter then [([], rest)] else []
      | [] => []
  | .blanks _ => (blankReadings text).map fun rest => ([], rest)
  | .unknown _ => []
  | .lonePercent => []

/-- A piece filled in for a date.  Directives without a meaning stay as they are. -/
def render (piece : Piece) (date : Date) : List Char :=
  match piece with
  | .field directive => directive.render date
  | .literal letter => [letter]
  | .blanks run => run
  | .unknown letter => ['%', letter]
  | .lonePercent => ['%']

/-- Puts a character before pieces; white space joins a run that follows. -/
def consLiteral (c : Char) (pieces : List Piece) : List Piece :=
  if Text.isBlank c then
    match pieces with
    | .blanks run :: rest => .blanks (c :: run) :: rest
    | _ => .blanks [c] :: pieces
  else
    .literal c :: pieces

/-- The piece that a percent sign and a letter stand for. -/
def ofLetter (letter : Char) : Piece :=
  match Directive.ofLetter? letter with
  | some directive => .field directive
  | none => if letter = '%' then .literal '%' else .unknown letter

end Piece

/-- A date pattern, cut into pieces. -/
structure Pattern where
  pieces : List Piece
  deriving Repr, DecidableEq

namespace Pattern

/-- The pieces of a pattern text. -/
def piecesOf : List Char → List Piece
  | [] => []
  | ['%'] => [.lonePercent]
  | '%' :: letter :: rest => Piece.ofLetter letter :: piecesOf rest
  | c :: rest => Piece.consLiteral c (piecesOf rest)

/-- The pattern that a text describes. -/
def ofText (text : List Char) : Pattern :=
  ⟨piecesOf text⟩

/-- The first way to read pieces one after the other, with what follows. -/
def readPieces? : List Piece → List Char → Option (DateFields × List Char)
  | [], text => some ([], text)
  | piece :: pieces, text =>
      (piece.readings text).findSome? fun (found, rest) =>
        (readPieces? pieces rest).map fun (others, rest) => (found ++ others, rest)

/-- The fields of a text that a pattern matches as a whole. -/
def fields? (pattern : Pattern) (text : List Char) : Option DateFields :=
  match readPieces? pattern.pieces text with
  | some (fields, []) => some fields
  | _ => none

/-- A date filled into a pattern. -/
def render (pattern : Pattern) (date : Date) : List Char :=
  pattern.pieces.flatMap fun piece => piece.render date

end Pattern

namespace DateFields

/-- The number that the last field of one of the given kinds has. -/
def last? (fields : DateFields) (isWanted : Directive → Bool) : Option (Directive × Nat) :=
  fields.reverse.find? fun (directive, _) => isWanted directive

/-- The year of a century: 69 to 99 are the years from 1969 on, 0 to 68 those from 2000 on. -/
def fullYear (yearOfCentury : Nat) : Nat :=
  if yearOfCentury ≤ 68 then 2000 + yearOfCentury else 1900 + yearOfCentury

/-- The year that the fields give. -/
def year? (fields : DateFields) : Option Nat :=
  (fields.last? fun directive => directive == .year || directive == .yearOfCentury).map
    fun (directive, number) => if directive = .year then number else fullYear number

/-- The month that the fields give, January if they give none. -/
def month (fields : DateFields) : Nat :=
  ((fields.last? fun directive =>
    directive == .month || directive == .monthName || directive == .monthAbbreviation).map
      Prod.snd).getD 1

/-- The day of the month that the fields give, the first if they give none. -/
def day (fields : DateFields) : Nat :=
  ((fields.last? (· == .day)).map Prod.snd).getD 1

/-- The day of the year that the fields give. -/
def dayOfYear? (fields : DateFields) : Option Nat :=
  (fields.last? (· == .dayOfYear)).map Prod.snd

/-- The day that a year and fields without a meaning for the year name. -/
def dateIn? (fields : DateFields) (year : Int) : Option Date :=
  match fields.dayOfYear? with
  | none => Date.ofYearMonthDay? year fields.month fields.day
  | some dayOfYear =>
      (Date.ofYearMonthDay? year 1 1).bind fun first => first.addDays? ((dayOfYear : Int) - 1)

/--
The date that fields name.  A day of the year outweighs month and day, and day
366 of a common year is the first of the next one.  Without a year the date is
in 1900; a 29 February without a year is looked up in the leap year 1904 first,
and its month and day must then exist in 1900.
-/
def date? (fields : DateFields) : Option Date :=
  match fields.year? with
  | some year => fields.dateIn? year
  | none =>
      if fields.month = 2 && fields.day = 29 then
        (fields.dateIn? 1904).bind fun found =>
          Date.ofYearMonthDay? 1900 found.month found.day
      else
        fields.dateIn? 1900

end DateFields

/-- How dates are written: eight digits, or by a pattern. -/
inductive DateFormat where
  | compact
  | custom (pattern : Pattern)
  deriving Repr, DecidableEq

namespace DateFormat

/-- The pattern text of the compact format. -/
def compactPattern : String := "%Y%m%d"

/-- The format that a pattern text describes. -/
def ofText (text : String) : DateFormat :=
  if text = compactPattern then .compact else .custom (Pattern.ofText text.toList)

/-- The date that a text names in a format. -/
def read? (format : DateFormat) (text : List Char) : Option Date :=
  match format with
  | .compact => Date.ofCompact? text
  | .custom pattern => (pattern.fields? text).bind DateFields.date?

/-- A date in a format. -/
def write (format : DateFormat) (date : Date) : List Char :=
  match format with
  | .compact => date.compact
  | .custom pattern => pattern.render date

end DateFormat

end Recurrence
