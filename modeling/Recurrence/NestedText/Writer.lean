import Recurrence.Text.Blank
import Recurrence.Text.Split
import Recurrence.Value

namespace Recurrence.NestedText

/-!
# Writing NestedText

A value goes to the line of its item or field if it is a text without line
breaks, and to the lines after it, indented by four spaces, if it is not.
Numbers and truth values are written as texts, null as the empty text.  A key
that could be mistaken for something else is written on lines of its own.
-/

/-- The spaces before the lines of a nested value. -/
def indentation : List Char :=
  List.replicate 4 ' '

/-- Lines one level further in. -/
def indentLines (lines : List (List Char)) : List (List Char) :=
  lines.map fun line => indentation ++ line

/-- A mark with a text after it, or alone before nothing. -/
def marked (mark : List Char) (content : List Char) : List Char :=
  if content.isEmpty then mark else mark ++ ' ' :: content

/-- The lines of a text, whatever its line breaks. -/
def textLines (content : List Char) : List (List Char) :=
  Text.lines content

/-- A text on lines of its own. -/
def textBlock (content : List Char) : List (List Char) :=
  (textLines content).map (marked ['>'])

/-- Whether a text stands at the start of another one. -/
def startsWith (text : List Char) (start : String) : Bool :=
  start.toList.isPrefixOf text

/-- Whether a text holds a colon with a space after it. -/
def hasColonSpace : List Char → Bool
  | ':' :: ' ' :: _ => true
  | _ :: rest => hasColonSpace rest
  | [] => false

/-- Whether a key must be written on lines of its own. -/
def needsKeyLines (key : List Char) : Bool :=
  key.isEmpty || key.contains '\n' || Text.trim key != key ||
    ["#", "[", "\x7b", "- ", "> ", ": "].any (startsWith key) || hasColonSpace key

/-- The lines of an item or field with a text as its value. -/
def textEntry (head : List Char) (content : List Char) : List (List Char) :=
  match textLines content with
  | [line] => [marked head line]
  | _ => head :: indentLines (textBlock content)

/-- The text of a value that is neither a list nor an object. -/
def scalarText : Value → List Char
  | .null => []
  | .text content => content.legible.toList
  | value => value.inner

/-- The lines of an item or field, given the lines of its value on lines of its own. -/
def entry (head : List Char) (value : Value) (own : List (List Char)) : List (List Char) :=
  match value with
  | .list _ => head :: indentLines own
  | .object _ => head :: indentLines own
  | scalar => textEntry head (scalarText scalar)

/-- The lines of a field, given the lines of its value on lines of its own. -/
def fieldEntry (name : Wording) (value : Value) (own : List (List Char)) : List (List Char) :=
  let key := Text.normalizeNewlines name.legible.toList
  if needsKeyLines key then
    (textLines key).map (marked [':']) ++ indentLines own
  else
    entry (key ++ [':']) value own

mutual

/-- The lines of a value on lines of its own. -/
def block : Value → List (List Char)
  | .list [] => [['[', ']']]
  | .list (item :: items) => entry ['-'] item (block item) ++ itemLines items
  | .object [] => [['\x7b', '\x7d']]
  | .object ((name, value) :: fields) =>
      fieldEntry name value (block value) ++ fieldLines fields
  | scalar => textBlock (scalarText scalar)

/-- The lines of the items of a list. -/
def itemLines : List Value → List (List Char)
  | [] => []
  | item :: items => entry ['-'] item (block item) ++ itemLines items

/-- The lines of the fields of an object. -/
def fieldLines : List (Wording × Value) → List (List Char)
  | [] => []
  | (name, value) :: fields => fieldEntry name value (block value) ++ fieldLines fields

end

/-- The lines of a document; null is a document without content. -/
def documentLines : Value → List (List Char)
  | .null => []
  | value => block value

/-- A document, with a line break at its end. -/
def write (value : Value) : List Char :=
  Text.join '\n' (documentLines value) ++ ['\n']

end Recurrence.NestedText
