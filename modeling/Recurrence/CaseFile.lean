import Recurrence.Case
import Recurrence.Json.Reader
import Recurrence.NestedText.Reader

namespace Recurrence

/-!
# Case files

A case file is a JSON document, a file with a JSON document on each line, or a
NestedText document; the last part of its name says which.  It holds a list of
cases, or an object of cases by their ids.  First every record must be an object,
then every record must be a case; the first that is not is reported.  A case
without an id is named by its key, or else by its position.
-/

/-- The formats of case files. -/
inductive FileFormat where
  | json
  | jsonLines
  | nestedText
  deriving Repr, DecidableEq

/-- How a record is named in a message: by its key, or by its position. -/
inductive RecordName where
  | key (name : Wording)
  | position (index : Nat)
  deriving Repr, DecidableEq

/-- The text of the name of a record. -/
def RecordName.text : RecordName → String
  | .key name => String.ofList name.quoted
  | .position index => toString index

/-- Why a case file cannot be loaded. -/
inductive LoadError where
  | unknownExtension (path : String)
  | notAnObject (record : RecordName) (path : String)
  | notCases (path : String)
  | malformedNestedText (path : String)
  | malformedJson
  | oversized (number : Text.Oversized)
  | notFound
  | notUtf8
  | invalidFields (errors : List FieldError)
  deriving Repr, DecidableEq

/-- The wording of the failure.  Failures of other programs' making have none. -/
def LoadError.message : LoadError → Option String
  | .unknownExtension path =>
      some s!"Cannot load cases from {path}, supported extensions are json, jsonl, nt"
  | .notAnObject record path =>
      some s!"Case {record.text} in {path} is not a mapping of case fields"
  | .notCases path =>
      some s!"{path} must contain a list of cases or a mapping from case id to case"
  | .malformedNestedText path => some s!"Cannot parse {path}"
  | .malformedJson => none
  | .oversized number => some number.message
  | .notFound => none
  | .notUtf8 => none
  | .invalidFields errors => some (FieldError.messages errors)

namespace CaseFile

/-- The parts of a path that lead somewhere: neither empty nor a single dot. -/
def pathParts (path : List Char) : List (List Char) :=
  (Text.splitOn '/' path).filter fun part => !part.isEmpty && part != ['.']

/-- A path without empty parts and single dots. -/
def normalPath (path : String) : String :=
  let parts := pathParts path.toList
  let root := path.toList.take 1 |>.filter (· == '/')
  if parts.isEmpty && root.isEmpty then "." else String.ofList (root ++ Text.join '/' parts)

/-- The name of a file without its directories. -/
def baseName (path : List Char) : List Char :=
  ((pathParts path).getLast?).getD []

/-- What follows the last dot of a name, which must be neither its first nor its last character. -/
def extension (path : List Char) : List Char :=
  match (Text.splitOn '.' (baseName path)).reverse with
  | last :: before :: others =>
      if last.isEmpty || (before.isEmpty && others.isEmpty) then [] else last
  | _ => []

/-- The format that the name of a file asks for. -/
def format? (path : String) : Option FileFormat :=
  match String.ofList (extension path.toList) with
  | "json" => some .json
  | "jsonl" => some .jsonLines
  | "nt" => some .nestedText
  | _ => none

/-- A failure to read JSON as a failure to load. -/
def ofReadError : Json.ReadError → LoadError
  | .malformed => .malformedJson
  | .oversized number => .oversized number

/-- Reads a JSON document. -/
def readJson (text : List Char) : Except LoadError Value :=
  (Json.read text).mapError ofReadError

/-- Reads one JSON document on each line that is not blank. -/
def readJsonLines : List (List Char) → Except LoadError (List Value)
  | [] => .ok []
  | line :: lines =>
      if line.all Text.isBlank then
        readJsonLines lines
      else do
        let value ← readJson line
        let values ← readJsonLines lines
        return value :: values

/-- Reads a NestedText document. -/
def readNestedText (path : String) (text : List Char) : Except LoadError Value :=
  match NestedText.read? text with
  | some value => .ok value
  | none => .error (.malformedNestedText path)

/-- Reads the text of a file in a format. -/
def readText
    (path : String)
    (format : FileFormat)
    (text : List Char) :
    Except LoadError Value :=
  match format with
  | .json => readJson text
  | .jsonLines => (readJsonLines (Text.lines text)).map Value.list
  | .nestedText => readNestedText path text

/-- The records of a list. -/
def listRecords (path : String) : Nat → List Value → Except LoadError (List (Fields Value))
  | _, [] => .ok []
  | index, .object fields :: items => do
      let records ← listRecords path (index + 1) items
      return fields :: records
  | index, _ :: _ => .error (.notAnObject (.position index) path)

/-- The records of an object, each with its key as id unless it has an id of its own. -/
def objectRecords (path : String) : Fields Value → Except LoadError (List (Fields Value))
  | [] => .ok []
  | (key, .object fields) :: others => do
      let records ← objectRecords path others
      return Fields.ofPairs (("case_id", .text key) :: fields) :: records
  | (key, _) :: _ => .error (.notAnObject (.key key) path)

/-- The records of a document, in order. -/
def records (path : String) : Value → Except LoadError (List (Fields Value))
  | .object fields => objectRecords path fields
  | .list items => listRecords path 0 items
  | _ => .error (.notCases path)

/-- A record with its position as id unless it has an id. -/
def withId (position : Nat) (record : Fields Value) : Fields Value :=
  if record.has "case_id" then
    record
  else
    record.put "case_id" (.text (toString position))

/-- The cases that records describe, in order; positions count all records. -/
def casesOfRecords : Nat → List (Fields Value) → Except LoadError (List Case)
  | _, [] => .ok []
  | position, record :: others => do
      let first ← (Case.ofFields (withId position record)).mapError LoadError.invalidFields
      let rest ← casesOfRecords (position + 1) others
      return first :: rest

/-- The cases that a document holds. -/
def casesOf (path : String) (document : Value) : Except LoadError (List Case) := do
  let found ← records path document
  casesOfRecords 0 found

/-- The cases in the text of a file of a format. -/
def loadFormat
    (path : String)
    (format : FileFormat)
    (text : List Char) :
    Except LoadError (List Case) := do
  let document ← readText path format text
  casesOf path document

/-- The cases in the text of a file. -/
def loadText (path : String) (text : List Char) : Except LoadError (List Case) :=
  match format? path with
  | none => .error (.unknownExtension (normalPath path))
  | some format => loadFormat (normalPath path) format text

/-- The cases in a file of the given bytes, or without any if there is no such file. -/
def load (path : String) (bytes : Option ByteArray) : Except LoadError (List Case) :=
  match format? path, bytes with
  | none, _ => .error (.unknownExtension (normalPath path))
  | some _, none => .error .notFound
  | some format, some bytes =>
      match String.fromUTF8? bytes with
      | some text => loadFormat (normalPath path) format text.toList
      | none => .error .notUtf8

end CaseFile

end Recurrence
