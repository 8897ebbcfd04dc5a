import Recurrence.Value

namespace Recurrence.Json

/-!
# Writing JSON

The fields of an object are written in their order.  A style says what is put
between items and after keys, whether values go to lines of their own, and
whether characters beyond ASCII are escaped.
-/

/-- What a style decides about the text of a value. -/
structure Style where
  asciiOnly : Bool
  indent : Option Nat
  itemSeparator : String
  keySeparator : String

namespace Style

/-- Everything on one line without spaces; characters beyond ASCII stand for themselves. -/
def compact : Style :=
  ⟨false, none, ",", ":"⟩

/-- Everything on one line with spaces, in ASCII. -/
def oneLine : Style :=
  ⟨true, none, ", ", ": "⟩

/-- Every value on a line of its own, `indent` spaces further in at each level, in ASCII. -/
def indented (indent : Nat) : Style :=
  ⟨true, some indent, ",", ": "⟩

/-- The style of a document with the given indentation, on one line for none. -/
def ofIndent : Option Nat → Style
  | some indent => indented indent
  | none => oneLine

end Style

/-- A unit of UTF-16 as an escape. -/
def escapedUnit (unit : Nat) : List Char :=
  '\\' :: 'u' :: Text.hexText 4 unit

/-- A character as one escape, or two for a character beyond U+FFFF. -/
def escapedChar (c : Char) : List Char :=
  let code := c.toNat
  if code < 0x10000 then
    escapedUnit code
  else
    escapedUnit (0xD800 + (code - 0x10000) / 0x400) ++
      escapedUnit (0xDC00 + (code - 0x10000) % 0x400)

/-- A character inside a string. -/
def stringChar (asciiOnly : Bool) (c : Char) : List Char :=
  if c = '"' then
    ['\\', '"']
  else if c = '\\' then
    ['\\', '\\']
  else if c = '\n' then
    ['\\', 'n']
  else if c = '\r' then
    ['\\', 'r']
  else if c = '\t' then
    ['\\', 't']
  else if c = '\x0c' then
    ['\\', 'f']
  else if c = '\x08' then
    ['\\', 'b']
  else if c.toNat < 0x20 || (asciiOnly && 0x7E < c.toNat) then
    escapedChar c
  else
    [c]

/-- A code point inside a string; half of a surrogate pair is always escaped. -/
def stringCode (asciiOnly : Bool) (code : Nat) : List Char :=
  if Wording.isHalf code then escapedUnit code else stringChar asciiOnly (Char.ofNat code)

/-- The inside of a string. -/
def stringBody (asciiOnly : Bool) : Wording → List Char
  | .whole content => content.toList.flatMap (stringChar asciiOnly)
  | .broken codes _ => codes.flatMap (stringCode asciiOnly)

/-- A string in quotes. -/
def stringText (asciiOnly : Bool) (content : Wording) : List Char :=
  '"' :: (stringBody asciiOnly content ++ ['"'])

/-- A line break with the indentation of a level, nothing for a style on one line. -/
def lineBreak (style : Style) (level : Nat) : List Char :=
  match style.indent with
  | some indent => '\n' :: List.replicate (level * indent) ' '
  | none => []

mutual

/-- Writes a value that stands at a level of indentation. -/
def writeValue (style : Style) (level : Nat) : Value → List Char
  | .null => "null".toList
  | .boolean truth => (if truth then "true" else "false").toList
  | .integer number => Text.integerText number
  | .real number => number.text .json
  | .text content => stringText style.asciiOnly content
  | .list [] => ['[', ']']
  | .list (item :: items) =>
      '[' :: (lineBreak style (level + 1) ++ writeValue style (level + 1) item ++
        writeItems style (level + 1) items ++ lineBreak style level ++ [']'])
  | .object [] => ['\x7b', '\x7d']
  | .object ((key, value) :: fields) =>
      '\x7b' :: (lineBreak style (level + 1) ++ stringText style.asciiOnly key ++
        style.keySeparator.toList ++ writeValue style (level + 1) value ++
        writeFields style (level + 1) fields ++ lineBreak style level ++ ['\x7d'])

/-- Writes the items of a list after the first one. -/
def writeItems (style : Style) (level : Nat) : List Value → List Char
  | [] => []
  | item :: items =>
      style.itemSeparator.toList ++ lineBreak style level ++ writeValue style level item ++
        writeItems style level items

/-- Writes the fields of an object after the first one. -/
def writeFields (style : Style) (level : Nat) : List (Wording × Value) → List Char
  | [] => []
  | (key, value) :: fields =>
      style.itemSeparator.toList ++ lineBreak style level ++
        stringText style.asciiOnly key ++ style.keySeparator.toList ++
        writeValue style level value ++ writeFields style level fields

end

/-- Writes a whole document. -/
def write (style : Style) (value : Value) : List Char :=
  writeValue style 0 value

end Recurrence.Json
