import Recurrence.CommandLine.EscapeSequence
import Recurrence.CommandLine.Layout
import Recurrence.CommandLine.Markup
import Recurrence.CommandLine.Options
import Recurrence.CommandLine.Table
import Recurrence.Scheduler

namespace Recurrence.CommandLine

/-!
# The command

The command prints the next date of a rule, or a table of several.  Arguments
that it refuses end it with status 2, a rule or date that has no answer with
status 1.  Two failures break it off before it prints anything: a number in a
rule that is too long, and text that is no markup in the heading of a table.  Which
texts are literals in markup is a parameter `isLiteral`.
-/

/-- What breaks the command off. -/
inductive Crash where
  | oversized (number : Text.Oversized)
  | markup (error : MarkupError)
  deriving Repr, DecidableEq

/-- The wording of the failure. -/
def Crash.message : Crash → String
  | .oversized number => number.message
  | .markup error => error.message

/-- What the command leaves behind. -/
structure Result where
  status : Nat
  output : String
  errors : String
  crash : Option Crash
  deriving Repr, DecidableEq

/-- The width of the terminal. -/
def terminalWidth : Nat := 80

/-- The reminder of the usage. -/
def usage : String :=
  "Usage: next-date-cli [OPTIONS]\n"

/-- The description of the command and its options. -/
def helpText : String :=
  usage ++ "\n" ++
    "  Print the next date on which a recurring task is due.\n\n" ++
    "Options:\n" ++
    "  --now TEXT             Reference date, YYYYMMDD. Defaults to today.\n" ++
    "  --date TEXT            Scheduled date, YYYYMMDD.  [required]\n" ++
    "  --repeat TEXT          Recurrence rule, eg \"d 7\" or \"w 1,3\".  [required]\n" ++
    "  --strict               Reject surplus rule tokens.\n" ++
    "  --count INTEGER RANGE  Number of upcoming occurrences to show.  [default: 1;\n" ++
    "                         x>=1]\n" ++
    "  --verbose              Log the computation.\n" ++
    "  --help                 Show this message and exit.\n"

namespace Result

/-- The command has printed something. -/
def printed (output : String) : Result :=
  ⟨0, output, "", none⟩

/-- The command refuses its arguments. -/
def refused (error : UsageError) : Result :=
  let reminder :=
    if error.showsUsage then
      usage ++ "Try 'next-date-cli --help' for help.\n\n"
    else
      ""
  ⟨2, "", plainMessage (reminder ++ "Error: " ++ error.message ++ "\n"), none⟩

/-- The command breaks off. -/
def crashed (crash : Crash) : Result :=
  ⟨1, "", "", some crash⟩

/-- The request has no answer. -/
def failed : RequestError → Result
  | .recurrence error => ⟨1, "", plainMessage ("Error: " ++ error.message ++ "\n"), none⟩
  | .oversized number => crashed (.oversized number)

end Result

/-- The heading of a table, with the rule in bold. -/
def heading (order : Order) (now : Date) : String :=
  "Rule [bold]" ++ order.rule ++ "[/bold] from " ++ order.date ++ ", after " ++
    String.ofList now.compact ++ ":"

/-- Lines, each with a line break at its end. -/
def unlines (lines : List String) : String :=
  String.join (lines.map fun line => line ++ "\n")

/-- The reference date of an order: today if it names none. -/
def Order.reference (today : Date) (order : Order) : Except UsageError Date :=
  match order.now.getD "" with
  | "" => .ok today
  | text =>
      match Date.ofCompact? text.toList with
      | some date => .ok date
      | none => .error .badReference

section Printing

variable (isLiteral : List Char → Bool)

/-- A heading and a table of dates as they are printed. -/
def tablePage (heading : String) (dates : List String) : Except MarkupError String := do
  let rendering ← Markup.render isLiteral heading.toList
  let headingLines := wrap terminalWidth rendering.text
  match rendering.fault? (1 < headingLines.length || rendering.text.contains '\t') with
  | some fault => throw (.color fault)
  | none => return unlines (headingLines.map String.ofList ++ tableLines dates)

/-- Answers an order whose reference date is known. -/
def Order.answer (order : Order) (now : Date) : Result :=
  let scheduler : Scheduler := ⟨order.strict, .compact⟩
  let reference : Reference := .moment (.day now)
  if order.count = 1 then
    match scheduler.nextDate reference order.date order.rule with
    | .ok date => .printed (date ++ "\n")
    | .error error => .failed error
  else
    match scheduler.listing reference order.date order.rule order.count with
    | .ok dates =>
        match tablePage isLiteral (heading order now) dates with
        | .ok page => .printed page
        | .error error => .crashed (.markup error)
    | .error error => .failed error

/-- Carries out an order. -/
def Order.run (today : Date) (order : Order) : Result :=
  match order.reference today with
  | .ok now => order.answer isLiteral now
  | .error error => .refused error

/-- Runs the command on its arguments. -/
def run (today : Date) (words : List String) : Result :=
  match Arguments.read words with
  | .error error => .refused error
  | .ok arguments =>
      if arguments.has .help then
        .printed helpText
      else
        match Order.ofArguments arguments with
        | .ok order => order.run isLiteral today
        | .error error => .refused error

end Printing

end Recurrence.CommandLine
