import Recurrence.CommandLine.Command
import Recurrence.CommandLine.Literal
import Std.Time.Zoned

namespace Recurrence

/-!
# The program

The program looks up the current date, runs the command on its arguments, and
prints what the command leaves behind.  It has no table of the names of characters:
in a literal it takes whatever is written like a name for one.
-/

/-- The date of a day of the machine's calendar, the first of all dates if it is out of range. -/
def dateOfDay (day : Std.Time.PlainDate) : Date :=
  (Date.ofYearMonthDay? day.year day.month.val.toNat day.day.val.toNat).getD
    ⟨1, 1, 1, by decide, by decide, by decide⟩

/-- Whether a text is a literal in markup. -/
def isLiteral (text : List Char) : Bool :=
  CommandLine.Literal.isText CommandLine.LiteralToken.isNameLike text

/-- Prints the result of a command and gives its status. -/
def report (result : CommandLine.Result) : IO UInt32 := do
  (← IO.getStdout).putStr result.output
  (← IO.getStderr).putStr result.errors
  match result.crash with
  | some crash => (← IO.getStderr).putStrLn crash.message
  | none => pure ()
  return result.status.toUInt32

end Recurrence

/-- Runs the command on the arguments of the program. -/
def main (words : List String) : IO UInt32 := do
  let today := Recurrence.dateOfDay (← Std.Time.PlainDate.now)
  Recurrence.report (Recurrence.CommandLine.run Recurrence.isLiteral today words)
