import Recurrence.Text.Blank

namespace Recurrence.NestedText

/-!
# Lines of a NestedText document

Every line of a document is of one kind, which its first visible characters
decide: an item of a list, a line of a text, a line of a key, a field of an
object, or a value written inline.  Empty lines and comments mean nothing.
Only spaces indent a line; other white space at its start makes it no line at all.
-/

/-- What a line holds. -/
inductive LineKind where
  | item (value : List Char)
  | textLine (content : List Char)
  | keyLine (content : List Char)
  | field (key value : List Char)
  | inline (content : List Char)
  deriving Repr, DecidableEq

/-- A line of content with the number of spaces before it. -/
structure Line where
  depth : Nat
  kind : LineKind
  deriving Repr, DecidableEq

/-- What a line of a document is. -/
inductive LineForm where
  | skipped
  | content (line : Line)
  | unrecognized
  deriving Repr, DecidableEq

/--
Cuts a field at its first colon that a space or the end of the line follows.
The key has at least one character.
-/
def splitField? : List Char → Option (List Char × List Char)
  | [] => none
  | [_] => none
  | c :: ':' :: [] => some ([c], [])
  | c :: ':' :: ' ' :: value => some ([c], value)
  | c :: rest => (splitField? rest).map fun (key, value) => (c :: key, value)

/-- What a mark and a space, or a mark alone, has after it. -/
def afterMark? (mark : Char) : List Char → Option (List Char)
  | [c] => if c = mark then some [] else none
  | c :: ' ' :: rest => if c = mark then some rest else none
  | _ => none

/-- The kind of a line whose indentation has been cut off. -/
def LineKind.read? (text : List Char) : Option LineKind :=
  match afterMark? '-' text, afterMark? '>' text, afterMark? ':' text with
  | some value, _, _ => some (.item value)
  | none, some content, _ => some (.textLine content)
  | none, none, some content => some (.keyLine content)
  | none, none, none =>
      match text with
      | '[' :: _ => some (.inline text)
      | '\x7b' :: _ => some (.inline text)
      | _ => (splitField? text).map fun (key, value) => .field (Text.trimEnd key) value

/-- Reads one line of a document. -/
def LineForm.read (text : List Char) : LineForm :=
  let indent := text.takeWhile (· == ' ')
  match text.dropWhile (· == ' ') with
  | [] => .skipped
  | '#' :: _ => .skipped
  | first :: rest =>
      if Text.isBlank first then
        .unrecognized
      else
        match LineKind.read? (first :: rest) with
        | some kind => .content ⟨indent.length, kind⟩
        | none => .unrecognized

/-- The lines of content of a document, if all its lines are recognized. -/
def contentLines? : List (List Char) → Option (List Line)
  | [] => some []
  | text :: texts =>
      match LineForm.read text with
      | .skipped => contentLines? texts
      | .content line => (contentLines? texts).map (line :: ·)
      | .unrecognized => none

end Recurrence.NestedText
