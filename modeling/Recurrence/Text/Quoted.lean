import Recurrence.Text.Printable

namespace Recurrence.Text

/-!
# Quoted text

A text is quoted with single quotes, or with double quotes when it holds a
single quote and no double one.  The quote mark, the backslash and line breaks
and tabs are escaped with a backslash; other characters that are not printable
are written by their code point in hexadecimal.
-/

/-- The digits of a number in lower case hexadecimal, at least `width` of them. -/
def hexText (width : Nat) (number : Nat) : List Char :=
  (Nat.toDigits 16 number).leftpad width '0'

/-- The quote mark that needs the fewest escapes. -/
def quoteMark (text : List Char) : Char :=
  if text.contains '\'' && !text.contains '"' then '"' else '\''

/-- A code point as an escape of the shortest fitting width. -/
def escapedCode (code : Nat) : List Char :=
  if code ≤ 0xFF then
    '\\' :: 'x' :: hexText 2 code
  else if code ≤ 0xFFFF then
    '\\' :: 'u' :: hexText 4 code
  else
    '\\' :: 'U' :: hexText 8 code

/-- A character between quote marks. -/
def quotedChar (mark : Char) (c : Char) : List Char :=
  if c = mark || c = '\\' then
    ['\\', c]
  else if c = '\t' then
    ['\\', 't']
  else if c = '\n' then
    ['\\', 'n']
  else if c = '\r' then
    ['\\', 'r']
  else if isPrintable c then
    [c]
  else
    escapedCode c.toNat

/-- A text in quotes. -/
def quoted (text : List Char) : List Char :=
  let mark := quoteMark text
  mark :: (text.flatMap (quotedChar mark) ++ [mark])

end Recurrence.Text
