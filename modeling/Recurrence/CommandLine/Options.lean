import Recurrence.CommandLine.Similarity
import Recurrence.Text.Blank
import Recurrence.Text.DecimalDigit
import Recurrence.Text.Integer
import Recurrence.Text.Quoted
import Recurrence.Text.Split

namespace Recurrence.CommandLine

/-!
# Options of the command line

An option is given as `--name value` or `--name=value`; the last of a repeated
option counts.  After `--` nothing is an option.  All arguments are read first.
Then the options are checked in the order in which they were given, those that
were not given last, and what is left over is refused.
-/

/-- The options of the command. -/
inductive Flag where
  | now
  | date
  | rule
  | strict
  | count
  | verbose
  | help
  deriving Repr, DecidableEq

namespace Flag

/-- All options, in the order of their declaration. -/
def all : List Flag :=
  [.now, .date, .rule, .strict, .count, .verbose, .help]

/-- The name of an option, as it is given. -/
def name : Flag → String
  | .now => "--now"
  | .date => "--date"
  | .rule => "--repeat"
  | .strict => "--strict"
  | .count => "--count"
  | .verbose => "--verbose"
  | .help => "--help"

/-- Whether an option has a value. -/
def takesValue : Flag → Bool
  | .now => true
  | .date => true
  | .rule => true
  | .strict => false
  | .count => true
  | .verbose => false
  | .help => false

/-- The option of a name. -/
def ofName? (name : String) : Option Flag :=
  all.find? fun option => option.name == name

end Flag

/-- Why the arguments are refused. -/
inductive UsageError where
  | noSuchOption (name : String) (similar : List String)
  | valueMissing (option : Flag)
  | valueUnexpected (option : Flag)
  | optionMissing (option : Flag)
  | countMalformed (text : String)
  | countTooSmall (count : Int)
  | surplus (arguments : List String)
  | badReference
  deriving Repr, DecidableEq

namespace UsageError

/-- A text in quotes, with escapes for what cannot be printed. -/
def quotedName (name : String) : String :=
  String.ofList (Text.quoted name.toList)

/-- Texts in quotes, separated by commas. -/
def quotedNames (names : List String) : String :=
  String.intercalate ", " (names.map quotedName)

/-- The question whether a similar option was meant. -/
def suggestion : List String → String
  | [] => ""
  | [name] => " Did you mean " ++ quotedNames [name] ++ "?"
  | names => " (Did you mean one of: " ++ quotedNames names ++ "?)"

/-- The wording of the refusal. -/
def message : UsageError → String
  | .noSuchOption name similar => "No such option " ++ quotedName name ++ "." ++ suggestion similar
  | .valueMissing option => "Option '" ++ option.name ++ "' requires an argument."
  | .valueUnexpected option => "Option '" ++ option.name ++ "' does not take a value."
  | .optionMissing option => "Missing option '" ++ option.name ++ "'."
  | .countMalformed text =>
      "Invalid value for '--count': " ++ quotedName text ++ " is not a valid integer range."
  | .countTooSmall count =>
      "Invalid value for '--count': " ++ String.ofList (Text.integerText count) ++
        " is not in the range x>=1."
  | .surplus [argument] => "Got unexpected extra argument (" ++ argument ++ ")"
  | .surplus arguments =>
      "Got unexpected extra arguments (" ++ String.intercalate " " arguments ++ ")"
  | .badReference => "Invalid value for --now: invalid 'now' date format"

/-- Whether the refusal comes with a reminder of the usage. -/
def showsUsage : UsageError → Bool
  | .valueMissing _ => false
  | .valueUnexpected _ => false
  | _ => true

end UsageError

/-- The arguments after reading: options with their values, and what is no option. -/
structure Arguments where
  given : List (Flag × String)
  surplus : List String
  deriving Repr, DecidableEq

namespace Arguments

/-- Arguments with one more option before them. -/
def withOption (option : Flag) (value : String) (arguments : Arguments) : Arguments :=
  { arguments with given := (option, value) :: arguments.given }

/-- Arguments with one more before them that is no option. -/
def withSurplus (argument : String) (arguments : Arguments) : Arguments :=
  { arguments with surplus := argument :: arguments.surplus }

/-- An argument cut at its first equals sign. -/
def splitValue (argument : List Char) : String × Option String :=
  match argument.dropWhile (· != '=') with
  | [] => (String.ofList argument, none)
  | _ :: value => (String.ofList (argument.takeWhile (· != '=')), some (String.ofList value))

/-- The refusal of an option that does not exist; a single hyphen has one letter after it. -/
def unknown (argument : List Char) (name : String) : UsageError :=
  match argument with
  | '-' :: '-' :: _ => .noSuchOption name (similarWords (Flag.all.map Flag.name) name)
  | _ => .noSuchOption (String.ofList (argument.take 2)) []

/-- Reads the arguments from left to right. -/
def read : List String → Except UsageError Arguments
  | [] => .ok ⟨[], []⟩
  | argument :: rest =>
      if argument = "--" then
        .ok ⟨[], rest⟩
      else if argument.toList.head? != some '-' || argument = "-" then
        (read rest).map (withSurplus argument)
      else
        let (name, value) := splitValue argument.toList
        match Flag.ofName? name with
        | none => .error (unknown argument.toList name)
        | some option =>
            match option.takesValue, value with
            | true, some value => (read rest).map (withOption option value)
            | true, none =>
                match rest with
                | next :: others => (read others).map (withOption option next)
                | [] => .error (.valueMissing option)
            | false, some _ => .error (.valueUnexpected option)
            | false, none => (read rest).map (withOption option "")

/-- The value of an option: the last one given. -/
def value? (arguments : Arguments) (option : Flag) : Option String :=
  arguments.given.reverse.lookup option

/-- Whether an option was given. -/
def has (arguments : Arguments) (option : Flag) : Bool :=
  (arguments.value? option).isSome

/-- The options in the order in which they are checked. -/
def checkOrder (arguments : Arguments) : List Flag :=
  arguments.given.map Prod.fst ++ Flag.all

end Arguments

/-- Digits of any script, with single underscores between them. -/
def looseDigits? : List Char → Option (List Nat)
  | [] => none
  | [c] => (Text.decimalDigit? c).map fun digit => [digit]
  | c :: '_' :: rest => do
      let digit ← Text.decimalDigit? c
      let digits ← looseDigits? rest
      return digit :: digits
  | c :: next :: rest => do
      let digit ← Text.decimalDigit? c
      let digits ← looseDigits? (next :: rest)
      return digit :: digits

/-- White space around a number: all but the information separators U+001C to U+001F. -/
def isPadding (c : Char) : Bool :=
  Text.isBlank c && !(0x1C ≤ c.toNat && c.toNat ≤ 0x1F)

/-- A text without the white space around the number in it. -/
def unpadded (text : List Char) : List Char :=
  ((text.dropWhile isPadding).reverse.dropWhile isPadding).reverse

/-- A count: an integer of a readable length, with white space around it or not. -/
def readCount? (text : List Char) : Option Int :=
  let (negative, digits) := Text.splitSign (unpadded text)
  match looseDigits? digits with
  | some digits =>
      if Text.maxDigits < digits.length then
        none
      else
        some (Text.signed negative (digits.foldl (fun number digit => 10 * number + digit) 0))
  | none => none

/-- What the command is asked to do. -/
structure Order where
  now : Option String
  date : String
  rule : String
  strict : Bool
  count : Int
  deriving Repr, DecidableEq

namespace Order

/-- The count that is asked for, one if none is given. -/
def count? (arguments : Arguments) : Except UsageError Int :=
  match arguments.value? .count with
  | none => .ok 1
  | some text =>
      match readCount? text.toList with
      | none => .error (.countMalformed text)
      | some count => if count < 1 then .error (.countTooSmall count) else .ok count

/-- What is wrong with an option, if anything. -/
def check (arguments : Arguments) (option : Flag) : Option UsageError :=
  match option with
  | .date => if arguments.has .date then none else some (.optionMissing .date)
  | .rule => if arguments.has .rule then none else some (.optionMissing .rule)
  | .count =>
      match count? arguments with
      | .ok _ => none
      | .error error => some error
  | _ => none

/-- The order that arguments give, unless an option is wrong or something is left over. -/
def ofArguments (arguments : Arguments) : Except UsageError Order :=
  match arguments.checkOrder.findSome? (check arguments) with
  | some error => .error error
  | none =>
      if arguments.surplus.isEmpty then do
        let count ← count? arguments
        return ⟨arguments.value? .now, (arguments.value? .date).getD "",
          (arguments.value? .rule).getD "", arguments.has .strict, count⟩
      else
        .error (.surplus arguments.surplus)

end Order

end Recurrence.CommandLine
