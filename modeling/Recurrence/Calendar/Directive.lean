import Recurrence.Calendar.Date
import Recurrence.Text.DecimalDigit
import Recurrence.Text.Integer

namespace Recurrence

/-!
# Date fields

A directive stands for one part of a date in a date pattern.  Reading a number
tries the shapes of the directive in order, so that a field may be read in more
than one way; `Directive.readings` lists all of them, the preferred one first.
-/

/-- A part of a date that a pattern can ask for. -/
inductive Directive where
  | year
  | yearOfCentury
  | month
  | monthName
  | monthAbbreviation
  | day
  | dayOfYear
  | hour
  | minute
  deriving Repr, DecidableEq

/-- What may stand at one place of a number. -/
inductive DigitClass where
  | between (least greatest : Nat)
  | decimal
  | space
  deriving Repr, DecidableEq

namespace DigitClass

/-- The value of a character of the class.  A range takes ASCII digits alone. -/
def value? (place : DigitClass) (c : Char) : Option Nat :=
  match place with
  | .between least greatest =>
      let digit := c.toNat - '0'.toNat
      if c.isDigit && least ≤ digit && digit ≤ greatest then some digit else none
  | .decimal => Text.decimalDigit? c
  | .space => if c = ' ' then some 0 else none

/-- Reads one number place by place, and gives what follows it. -/
def readNumber? : List DigitClass → List Char → Nat → Option (Nat × List Char)
  | [], text, number => some (number, text)
  | _ :: _, [], _ => none
  | place :: places, c :: rest, number =>
      match place.value? c with
      | some digit => readNumber? places rest (10 * number + digit)
      | none => none

end DigitClass

/-- The English names of the months, January first. -/
def monthNames : List String :=
  ["January", "February", "March", "April", "May", "June", "July", "August",
    "September", "October", "November", "December"]

/-- The first three letters of the names of the months. -/
def monthAbbreviations : List String :=
  ["Jan", "Feb", "Mar", "Apr", "May", "Jun", "Jul", "Aug", "Sep", "Oct", "Nov", "Dec"]

/-- What follows `name` in a text that begins with it, ASCII case ignored. -/
def dropName? : List Char → List Char → Option (List Char)
  | [], text => some text
  | _ :: _, [] => none
  | letter :: letters, c :: rest =>
      if letter.toLower = c.toLower then dropName? letters rest else none

namespace Directive

/-- The letter that names a directive after a percent sign. -/
def ofLetter? : Char → Option Directive
  | 'Y' => some .year
  | 'y' => some .yearOfCentury
  | 'm' => some .month
  | 'B' => some .monthName
  | 'b' => some .monthAbbreviation
  | 'd' => some .day
  | 'j' => some .dayOfYear
  | 'H' => some .hour
  | 'M' => some .minute
  | _ => none

/-- The shapes of the number of a directive, the preferred one first. -/
def shapes : Directive → List (List DigitClass)
  | .year => [[.decimal, .decimal, .decimal, .decimal]]
  | .yearOfCentury => [[.decimal, .decimal]]
  | .month =>
      [[.between 1 1, .between 0 2], [.between 0 0, .between 1 9], [.between 1 9]]
  | .monthName => []
  | .monthAbbreviation => []
  | .day =>
      [[.between 3 3, .between 0 1], [.between 1 2, .decimal],
        [.between 0 0, .between 1 9], [.between 1 9], [.space, .between 1 9]]
  | .dayOfYear =>
      [[.between 3 3, .between 6 6, .between 0 6],
        [.between 3 3, .between 0 5, .decimal],
        [.between 1 2, .decimal, .decimal],
        [.between 0 0, .between 1 9, .decimal],
        [.between 0 0, .between 0 0, .between 1 9],
        [.between 1 9, .decimal],
        [.between 0 0, .between 1 9],
        [.between 1 9]]
  | .hour => [[.between 2 2, .between 0 3], [.between 0 1, .decimal], [.decimal]]
  | .minute => [[.between 0 5, .decimal], [.decimal]]

/-- The names that a directive reads and writes, January first. -/
def names : Directive → List String
  | .monthName => monthNames
  | .monthAbbreviation => monthAbbreviations
  | _ => []

/-- All ways to read a directive at the start of a text, each with what follows. -/
def readings (directive : Directive) (text : List Char) : List (Nat × List Char) :=
  let numbers := directive.shapes.filterMap fun shape => DigitClass.readNumber? shape text 0
  let named := directive.names.zipIdx.filterMap fun (name, index) =>
    (dropName? name.toList text).map fun rest => (index + 1, rest)
  numbers ++ named

/-- A directive filled in for a date, which has midnight as its time of day. -/
def render (directive : Directive) (date : Date) : List Char :=
  match directive with
  | .year => Text.naturalText date.year.toNat
  | .yearOfCentury => Text.paddedText 2 (date.year % 100).toNat
  | .month => Text.paddedText 2 date.month
  | .monthName => (monthNames.getD (date.month - 1) "").toList
  | .monthAbbreviation => (monthAbbreviations.getD (date.month - 1) "").toList
  | .day => Text.paddedText 2 date.day
  | .dayOfYear => Text.paddedText 3 date.dayOfYear
  | .hour => Text.paddedText 2 0
  | .minute => Text.paddedText 2 0

end Directive

end Recurrence
