import Recurrence.NestedText.Inline
import Recurrence.NestedText.Line
import Recurrence.Text.Split

namespace Recurrence.NestedText

/-!
# Reading NestedText

A value takes all lines from its first one on that are at least as deep, and its
own lines must all have the depth of the first; the first line of a document has
no space before it, unless it holds a value written inline.  An item or field
without a value on its own line has the deeper lines that follow it as its value,
and the empty text if there are none.  A key of several lines must be followed by
such a value.  Keys do not repeat.  A document without content is null.
-/

/-- Whether deeper lines come next. -/
def isDeeper (depth : Nat) : List Line → Option Nat
  | [] => none
  | line :: _ => if depth < line.depth then some line.depth else none

/-- The lines of a text at a depth, and the lines after it. -/
def readText? (depth : Nat) : List Line → Option (List (List Char) × List Line)
  | [] => some ([], [])
  | line :: lines =>
      match line.kind with
      | .textLine content =>
          if line.depth < depth then
            some ([], line :: lines)
          else if line.depth = depth then
            (readText? depth lines).map fun (contents, rest) => (content :: contents, rest)
          else
            none
      | _ => some ([], line :: lines)

/-- The further lines of a key at a depth, and the lines after it. -/
def spanKeyLines (depth : Nat) : List Line → List (List Char) × List Line
  | [] => ([], [])
  | line :: lines =>
      match line.kind with
      | .keyLine content =>
          if line.depth = depth then
            let (contents, rest) := spanKeyLines depth lines
            (content :: contents, rest)
          else
            ([], line :: lines)
      | _ => ([], line :: lines)

/-- Lines of a text as one text. -/
def joinLines (contents : List (List Char)) : String :=
  String.ofList (Text.join '\n' contents)

mutual

/-- Reads the value that begins with the first line.  `fuel` bounds the number of steps. -/
def readLines? : Nat → Nat → List Line → Option (Value × List Line)
  | 0, _, _ => none
  | _ + 1, _, [] => none
  | fuel + 1, depth, line :: lines =>
      match line.kind with
      | .item _ =>
          (readItems? fuel depth (line :: lines)).map fun (items, rest) => (.list items, rest)
      | .field _ _ =>
          (readFields? fuel depth [] (line :: lines)).map fun (fields, rest) =>
            (.object fields, rest)
      | .keyLine _ =>
          (readFields? fuel depth [] (line :: lines)).map fun (fields, rest) =>
            (.object fields, rest)
      | .textLine _ =>
          (readText? depth (line :: lines)).map fun (contents, rest) =>
            (.text (joinLines contents), rest)
      | .inline content => (readInline? content).map fun value => (value, lines)

/-- Reads the items of a list at a depth. -/
def readItems? : Nat → Nat → List Line → Option (List Value × List Line)
  | 0, _, _ => none
  | _ + 1, _, [] => some ([], [])
  | fuel + 1, depth, line :: lines =>
      if line.depth < depth then
        some ([], line :: lines)
      else if line.depth = depth then
        match line.kind with
        | .item value => do
            let (item, rest) ← readMember? fuel depth value lines
            let (items, rest) ← readItems? fuel depth rest
            return (item :: items, rest)
        | _ => none
      else
        none

/-- Reads the fields of an object at a depth, after those already known. -/
def readFields? : Nat → Nat → Fields Value → List Line → Option (Fields Value × List Line)
  | 0, _, _, _ => none
  | _ + 1, _, known, [] => some (known, [])
  | fuel + 1, depth, known, line :: lines =>
      if line.depth < depth then
        some (known, line :: lines)
      else if line.depth = depth then
        match line.kind with
        | .field key value => do
            let (entry, rest) ← readMember? fuel depth value lines
            let name := String.ofList key
            if known.has name then
              none
            else
              readFields? fuel depth (known.add name entry) rest
        | .keyLine content => do
            let (contents, rest) := spanKeyLines depth lines
            let deeper ← isDeeper depth rest
            let (entry, rest) ← readLines? fuel deeper rest
            let name := joinLines (content :: contents)
            if known.has name then
              none
            else
              readFields? fuel depth (known.add name entry) rest
        | _ => none
      else
        none

/-- Reads the value of an item or field, given what stands on its own line. -/
def readMember? : Nat → Nat → List Char → List Line → Option (Value × List Line)
  | 0, _, _, _ => none
  | fuel + 1, depth, value, lines =>
      if value.isEmpty then
        match isDeeper depth lines with
        | some deeper => readLines? fuel deeper lines
        | none => some (.text "", lines)
      else
        some (.text (String.ofList value), lines)

end

/-- Reads the lines of content of a whole document. -/
def readDocument? (lines : List Line) : Option Value :=
  if lines.isEmpty then
    some .null
  else
    match readLines? (3 * lines.length + 3) 0 lines with
    | some (value, []) => some value
    | _ => none

/-- A text without a byte order mark at its start. -/
def dropByteOrderMark : List Char → List Char
  | '\ufeff' :: rest => rest
  | text => text

/-- Reads a document. -/
def read? (text : List Char) : Option Value :=
  (contentLines? (Text.lines (dropByteOrderMark text))).bind readDocument?

end Recurrence.NestedText
