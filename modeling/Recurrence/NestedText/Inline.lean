import Recurrence.Text.Blank
import Recurrence.Value

namespace Recurrence.NestedText

/-!
# Values on one line

Lists in brackets and objects in braces may be written on one line.  Their texts
hold no brackets, braces or commas, and within objects no colons; white space
around a text is dropped, and spaces and tabs around everything else.  A list
has one item more than commas, unless it is written `[]`.  An item that is empty
gives way to another one that follows it before the comma.
-/

/-- The characters that no text in an inline list may hold. -/
def listDelimiters : List Char :=
  ['[', ']', '\x7b', '\x7d', ',']

/-- The characters that no text in an inline object may hold. -/
def objectDelimiters : List Char :=
  ':' :: listDelimiters

/-- A text up to the first of some delimiters, trimmed, and what follows. -/
def spanText (delimiters : List Char) (text : List Char) : String × List Char :=
  let isPlain (c : Char) : Bool := !delimiters.contains c
  (String.ofList (Text.trim (text.takeWhile isPlain)), text.dropWhile isPlain)

/-- A text without the spaces and tabs it begins with. -/
def skipSpaces (text : List Char) : List Char :=
  text.dropWhile fun c => c == ' ' || c == '\t'

/-- Whether a value holds nothing: no character, no item, no field. -/
def holdsNothing : Value → Bool
  | .text content => content.isEmpty
  | .list items => items.isEmpty
  | .object fields => fields.isEmpty
  | _ => false

mutual

/-- Reads a value up to one of some delimiters.  `fuel` bounds the number of steps. -/
def readInlineValue? : Nat → List Char → List Char → Option (Value × List Char)
  | 0, _, _ => none
  | fuel + 1, delimiters, text =>
      match skipSpaces text with
      | '[' :: ']' :: rest => some (.list [], skipSpaces rest)
      | '[' :: rest =>
          (readInlineItems? fuel (.text "") rest).map fun (items, rest) =>
            (.list items, skipSpaces rest)
      | '\x7b' :: '\x7d' :: rest => some (.object [], skipSpaces rest)
      | '\x7b' :: rest =>
          (readInlineFields? fuel [] rest).map fun (fields, rest) =>
            (.object fields, skipSpaces rest)
      | other =>
          let (content, rest) := spanText delimiters other
          some (.text content, rest)

/-- Reads on in a list, `item` being what its current item is so far, to the closing bracket. -/
def readInlineItems? : Nat → Value → List Char → Option (List Value × List Char)
  | 0, _, _ => none
  | fuel + 1, item, text =>
      match skipSpaces text with
      | ',' :: rest =>
          (readInlineItems? fuel (.text "") rest).map fun (items, rest) => (item :: items, rest)
      | ']' :: rest => some ([item], rest)
      | '\x7d' :: _ => none
      | [] => none
      | other =>
          if holdsNothing item then
            match readInlineValue? fuel listDelimiters other with
            | some (value, rest) => readInlineItems? fuel value rest
            | none => none
          else
            none

/-- Reads the fields of an object after those already known, with the closing brace. -/
def readInlineFields? : Nat → Fields Value → List Char → Option (Fields Value × List Char)
  | 0, _, _ => none
  | fuel + 1, known, text =>
      match spanText objectDelimiters text with
      | (key, ':' :: rest) =>
          if known.has key then
            none
          else
            match readInlineValue? fuel objectDelimiters rest with
            | some (value, ',' :: rest) =>
                readInlineFields? fuel (known.add key value) rest
            | some (value, '\x7d' :: rest) => some (known.add key value, rest)
            | _ => none
      | _ => none

end

/-- Reads a line that holds one inline value and nothing else. -/
def readInline? (text : List Char) : Option Value :=
  match readInlineValue? (2 * text.length + 2) [] text with
  | some (value, []) => some value
  | _ => none

end Recurrence.NestedText
