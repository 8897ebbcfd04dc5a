import Recurrence.Value

namespace Recurrence.Json

/-!
# Reading JSON

A reader takes the text from its place on and gives what it read with the text
that follows.  Besides the values of the standard, `NaN`, `Infinity` and
`-Infinity` are numbers.  White space is space, tab, line feed and carriage
return alone; control characters must be escaped in strings.  Two escapes for the
halves of a surrogate pair are one character; half of a pair alone stays what it is.
-/

/-- Why a text is not a JSON document that can be read. -/
inductive ReadError where
  | malformed
  | oversized (number : Text.Oversized)
  deriving Repr, DecidableEq

/-- The white space of JSON. -/
def isBlank (c : Char) : Bool :=
  c == ' ' || c == '\t' || c == '\n' || c == '\r'

/-- A text without the white space at its start. -/
def skipBlank (text : List Char) : List Char :=
  text.dropWhile isBlank

/-- The value of a hexadecimal digit. -/
def hexDigit? (c : Char) : Option Nat :=
  if c.isDigit then
    some (c.toNat - '0'.toNat)
  else if 'a' ≤ c && c ≤ 'f' then
    some (c.toNat - 'a'.toNat + 10)
  else if 'A' ≤ c && c ≤ 'F' then
    some (c.toNat - 'A'.toNat + 10)
  else
    none

/-- The number that four hexadecimal digits write. -/
def hexUnit? (a b c d : Char) : Option Nat :=
  match hexDigit? a, hexDigit? b, hexDigit? c, hexDigit? d with
  | some a, some b, some c, some d => some (((a * 16 + b) * 16 + c) * 16 + d)
  | _, _, _, _ => none

/-- Whether a unit is the first half of a surrogate pair. -/
def isHighSurrogate (unit : Nat) : Bool :=
  0xD800 ≤ unit && unit ≤ 0xDBFF

/-- Whether a unit is the second half of a surrogate pair. -/
def isLowSurrogate (unit : Nat) : Bool :=
  0xDC00 ≤ unit && unit ≤ 0xDFFF

/-- The code point that the two halves of a surrogate pair name. -/
def pairedCode (high low : Nat) : Nat :=
  0x10000 + (high - 0xD800) * 0x400 + (low - 0xDC00)

/-- The character that a letter after a backslash stands for. -/
def escaped? : Char → Option Char
  | '"' => some '"'
  | '\\' => some '\\'
  | '/' => some '/'
  | 'b' => some '\x08'
  | 'f' => some '\x0c'
  | 'n' => some '\n'
  | 'r' => some '\r'
  | 't' => some '\t'
  | _ => none

/--
Reads a string after its opening quote, as the code points of plain characters
and the units of escapes.
-/
def readUnits : List Char → Except ReadError (List Nat × List Char)
  | [] => .error .malformed
  | '"' :: rest => .ok ([], rest)
  | '\\' :: 'u' :: a :: b :: c :: d :: rest => do
      match hexUnit? a b c d with
      | some unit =>
          let (units, rest) ← readUnits rest
          return (unit :: units, rest)
      | none => .error .malformed
  | '\\' :: c :: rest => do
      match escaped? c with
      | some meant =>
          let (units, rest) ← readUnits rest
          return (meant.toNat :: units, rest)
      | none => .error .malformed
  | c :: rest => do
      if c = '\\' || c.toNat < 0x20 then
        .error .malformed
      else
        let (units, rest) ← readUnits rest
        return (c.toNat :: units, rest)

/-- The code points of units: the two halves of a surrogate pair are one code point. -/
def codesOfUnits : List Nat → List Nat
  | [] => []
  | [unit] => [unit]
  | unit :: next :: units =>
      if isHighSurrogate unit && isLowSurrogate next then
        pairedCode unit next :: codesOfUnits units
      else
        unit :: codesOfUnits (next :: units)

/-- Reads a string after its opening quote. -/
def readString (text : List Char) : Except ReadError (Wording × List Char) := do
  let (units, rest) ← readUnits text
  return (.ofCodes (codesOfUnits units), rest)

/-- The digits at the start of a text, and what follows them. -/
def spanDigits (text : List Char) : List Char × List Char :=
  (text.takeWhile Char.isDigit, text.dropWhile Char.isDigit)

/-- The whole part of a number: a single zero, or digits that begin with another digit. -/
def readWhole? : List Char → Option (List Char × List Char)
  | '0' :: rest => some (['0'], rest)
  | text =>
      let (digits, rest) := spanDigits text
      if digits.isEmpty then none else some (digits, rest)

/-- The digits after a decimal point, none if there is no point with a digit after it. -/
def readFraction : List Char → List Char × List Char
  | '.' :: rest =>
      let (digits, after) := spanDigits rest
      if digits.isEmpty then ([], '.' :: rest) else (digits, after)
  | text => ([], text)

/-- A power of ten, none if there is no digit after the mark and the sign. -/
def readExponent (text : List Char) : Option Int × List Char :=
  match text with
  | mark :: rest =>
      if mark = 'e' || mark = 'E' then
        let (negative, unsigned) := Text.splitSign rest
        let (digits, after) := spanDigits unsigned
        if digits.isEmpty then
          (none, text)
        else
          (some (Text.signed negative (Text.naturalOfDigits digits)), after)
      else
        (none, text)
  | [] => (none, text)

/-- Reads a number without its sign.  With a fraction or a power of ten it is real. -/
def readUnsigned (negative : Bool) (text : List Char) : Except ReadError (Value × List Char) :=
  match readWhole? text with
  | none => .error .malformed
  | some (whole, rest) =>
      let (fraction, rest) := readFraction rest
      let (exponent, rest) := readExponent rest
      if fraction.isEmpty && exponent.isNone then
        if Text.maxDigits < whole.length then
          .error (.oversized ⟨whole.length⟩)
        else
          .ok (.integer (Text.signed negative (Text.naturalOfDigits whole)), rest)
      else
        let digits := Text.naturalOfDigits (whole ++ fraction)
        .ok (.real (.ofDecimal negative digits (exponent.getD 0 - fraction.length)), rest)

/-- What follows a word at the start of a text. -/
def dropWord? (word : String) (text : List Char) : Option (List Char) :=
  if word.toList.isPrefixOf text then some (text.drop word.length) else none

/-- The values that are written as words. -/
def words : List (String × Value) :=
  [("null", .null), ("true", .boolean true), ("false", .boolean false),
    ("NaN", .real .notANumber), ("Infinity", .real (.infinite false)),
    ("-Infinity", .real (.infinite true))]

/-- Reads a value that is neither a string nor a list nor an object. -/
def readScalar (text : List Char) : Except ReadError (Value × List Char) :=
  match words.findSome? fun (word, value) => (dropWord? word text).map fun rest => (value, rest) with
  | some reading => .ok reading
  | none =>
      match text with
      | '-' :: rest => readUnsigned true rest
      | _ => readUnsigned false text

mutual

/-- Reads a value.  `fuel` bounds the number of steps. -/
def readValue : Nat → List Char → Except ReadError (Value × List Char)
  | 0, _ => .error .malformed
  | fuel + 1, text =>
      match text with
      | '"' :: rest => do
          let (content, rest) ← readString rest
          return (.text content, rest)
      | '[' :: rest =>
          match skipBlank rest with
          | ']' :: after => .ok (.list [], after)
          | items => do
              let (items, rest) ← readItems fuel items
              return (.list items, rest)
      | '\x7b' :: rest =>
          match skipBlank rest with
          | '\x7d' :: after => .ok (.object [], after)
          | fields => do
              let (pairs, rest) ← readPairs fuel fields
              return (.object (Fields.ofPairs pairs), rest)
      | _ => readScalar text

/-- Reads the items of a list from the first of them on, with the closing bracket. -/
def readItems : Nat → List Char → Except ReadError (List Value × List Char)
  | 0, _ => .error .malformed
  | fuel + 1, text => do
      let (item, rest) ← readValue fuel text
      match skipBlank rest with
      | ',' :: rest =>
          let (items, rest) ← readItems fuel (skipBlank rest)
          return (item :: items, rest)
      | ']' :: rest => return ([item], rest)
      | _ => .error .malformed

/-- Reads the pairs of an object from the first key on, with the closing brace. -/
def readPairs : Nat → List Char → Except ReadError (List (Wording × Value) × List Char)
  | 0, _ => .error .malformed
  | fuel + 1, text =>
      match text with
      | '"' :: rest => do
          let (key, rest) ← readString rest
          match skipBlank rest with
          | ':' :: rest =>
              let (value, rest) ← readValue fuel (skipBlank rest)
              match skipBlank rest with
              | ',' :: rest =>
                  let (pairs, rest) ← readPairs fuel (skipBlank rest)
                  return ((key, value) :: pairs, rest)
              | '\x7d' :: rest => return ([(key, value)], rest)
              | _ => .error .malformed
          | _ => .error .malformed
      | _ => .error .malformed

end

/-- Steps enough for any text: two for each character and two more. -/
def fuelFor (text : List Char) : Nat :=
  2 * text.length + 2

/-- Reads a whole document: one value with nothing but white space around it. -/
def read (text : List Char) : Except ReadError Value := do
  let (value, rest) ← readValue (fuelFor text) (skipBlank text)
  if (skipBlank rest).isEmpty then
    return value
  else
    .error .malformed

end Recurrence.Json
