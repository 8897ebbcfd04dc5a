import Recurrence.Text.Integer
import Recurrence.Text.Split

namespace Recurrence.CommandLine

/-!
# Words of literals

A literal is written with numbers, quoted texts, a few names and punctuation.  The
line ends between parentheses or braces mean nothing, nor do comments.  A quoted text
may give a character by its name; which names there are is a parameter `isName`.
-/

/-- A word of a literal; what a number or a quoted text says has no part in it. -/
inductive LiteralToken where
  | number (isImaginary : Bool)
  | quotedText
  | quotedBytes
  | constant
  | setName
  | leftParenthesis
  | rightParenthesis
  | leftBrace
  | rightBrace
  | comma
  | colon
  | plus
  | minus
  | lineEnd
  deriving Repr, DecidableEq

namespace LiteralToken

/-- Whether a character can stand in a name or right after a digit of one. -/
def isNameChar (c : Char) : Bool :=
  c.isAlphanum || c == '_' || 127 < c.toNat

/-- Whether a character is a hexadecimal digit. -/
def isHexDigit (c : Char) : Bool :=
  c.isDigit || ('a' ≤ c && c ≤ 'f') || ('A' ≤ c && c ≤ 'F')

/-- Whether a character is an octal digit. -/
def isOctalDigit (c : Char) : Bool :=
  '0' ≤ c && c ≤ '7'

/-- Whether a character is a binary digit. -/
def isBinaryDigit (c : Char) : Bool :=
  c == '0' || c == '1'

/-- Digits with single underscores between them: the digits, and what follows them. -/
def digits? (isDigit : Char → Bool) (text : List Char) : Option (List Char × List Char) :=
  let isInNumber (c : Char) : Bool := isDigit c || c == '_'
  let number := text.takeWhile isInNumber
  if (Text.splitOn '_' number).any List.isEmpty then
    none
  else
    some (number.filter isDigit, text.dropWhile isInNumber)

/-- Digits after a letter that tells their base, with an underscore before them or not. -/
def basedDigits? (isDigit : Char → Bool) : List Char → Option (List Char)
  | '_' :: rest => (digits? isDigit rest).map Prod.snd
  | rest => (digits? isDigit rest).map Prod.snd

/-- What follows the fraction of a number, if it has a point; the digits may be missing. -/
def afterFraction? : List Char → Option (Bool × List Char)
  | '.' :: c :: rest =>
      if c.isDigit then
        (digits? Char.isDigit (c :: rest)).map fun (_, after) => (true, after)
      else
        some (true, c :: rest)
  | ['.'] => some (true, [])
  | rest => some (false, rest)

/-- What follows the exponent of a number, if it has one. -/
def afterExponent? : List Char → Option (Bool × List Char)
  | c :: rest =>
      if c == 'e' || c == 'E' then
        let unsigned :=
          match rest with
          | '+' :: more => more
          | '-' :: more => more
          | more => more
        (digits? Char.isDigit unsigned).map fun (_, after) => (true, after)
      else
        some (false, c :: rest)
  | [] => some (false, [])

/-- Whether the letter of imaginary numbers comes first, and what follows it. -/
def afterUnit : List Char → Bool × List Char
  | 'j' :: rest => (true, rest)
  | 'J' :: rest => (true, rest)
  | rest => (false, rest)

/-- Whether digits make a whole number: no zero before others, and not too many of them. -/
def isWholeNumber (digits : List Char) : Bool :=
  match digits with
  | '0' :: others => others.all (· == '0')
  | _ => digits.length ≤ Text.maxDigits

/-- A number that begins with given digits, or with a point, and what follows it. -/
def decimal? (digits text : List Char) : Option (LiteralToken × List Char) := do
  let (hasFraction, afterFraction) ← afterFraction? text
  let (hasExponent, afterExponent) ← afterExponent? afterFraction
  let (isImaginary, after) := afterUnit afterExponent
  if hasFraction || hasExponent || isImaginary || isWholeNumber digits then
    some (.number isImaginary, after)
  else
    none

/-- A number and what follows it, whatever that is. -/
def number? : List Char → Option (LiteralToken × List Char)
  | '0' :: c :: rest =>
      let whole (after : List Char) : LiteralToken × List Char := (.number false, after)
      if c == 'x' || c == 'X' then
        (basedDigits? isHexDigit rest).map whole
      else if c == 'o' || c == 'O' then
        (basedDigits? isOctalDigit rest).map whole
      else if c == 'b' || c == 'B' then
        (basedDigits? isBinaryDigit rest).map whole
      else do
        let (digits, after) ← digits? Char.isDigit ('0' :: c :: rest)
        decimal? digits after
  | '.' :: rest => decimal? [] ('.' :: rest)
  | text => do
      let (digits, after) ← digits? Char.isDigit text
      decimal? digits after

/-- How a quoted text is to be read. -/
structure Quotation where
  isRaw : Bool
  isBytes : Bool
  deriving Repr, DecidableEq

/-- What the letters before a quote mark say. -/
def Quotation.ofLetters? (letters : List Char) : Option Quotation :=
  match String.ofList (letters.map Char.toLower) with
  | "" => some ⟨false, false⟩
  | "u" => some ⟨false, false⟩
  | "r" => some ⟨true, false⟩
  | "b" => some ⟨false, true⟩
  | "br" => some ⟨true, true⟩
  | "rb" => some ⟨true, true⟩
  | _ => none

/-- A text up to its closing quote mark, and what follows that; it stays on one line. -/
def shortQuote? (mark : Char) : List Char → Option (List Char × List Char)
  | '\\' :: c :: rest =>
      (shortQuote? mark rest).map fun (inside, after) => ('\\' :: c :: inside, after)
  | c :: rest =>
      if c == mark then
        some ([], rest)
      else if c == '\n' || c == '\\' then
        none
      else
        (shortQuote? mark rest).map fun (inside, after) => (c :: inside, after)
  | [] => none

/-- A text up to three closing quote marks, and what follows them. -/
def longQuote? (mark : Char) : List Char → Option (List Char × List Char)
  | '\\' :: c :: rest =>
      (longQuote? mark rest).map fun (inside, after) => ('\\' :: c :: inside, after)
  | c :: rest =>
      if [mark, mark, mark].isPrefixOf (c :: rest) then
        some ([], rest.drop 2)
      else
        (longQuote? mark rest).map fun (inside, after) => (c :: inside, after)
  | [] => none

/-- The quoted text after its first quote mark, and what follows it. -/
def quote? (mark : Char) (text : List Char) : Option (List Char × List Char) :=
  if [mark, mark].isPrefixOf text then
    longQuote? mark (text.drop 2)
  else
    shortQuote? mark text

/-- Whether a text begins with some hexadecimal digits. -/
def startsWithHex (count : Nat) (text : List Char) : Bool :=
  count ≤ text.length && (text.take count).all isHexDigit

/-- Whether eight hexadecimal digits name a code point: it is 10FFFF at most. -/
def isCodePoint (digits : List Char) : Bool :=
  match digits with
  | '0' :: '0' :: '0' :: _ => true
  | '0' :: '0' :: '1' :: '0' :: _ => true
  | _ => false

/-- Whether a text is written like the name of a character. -/
def isNameLike (text : List Char) : Bool :=
  text.all fun c => c.isAlphanum || c == ' ' || c == '-'

section Names

variable (isName : List Char → Bool)

/-- Whether a text begins with the name of a character in braces. -/
def startsWithName : List Char → Bool
  | '\x7b' :: rest =>
      let name := rest.takeWhile (· != '\x7d')
      rest.contains '\x7d' && !name.isEmpty && isName name
  | _ => false

/-- Whether what follows a backslash is complete. -/
def isEscape (isBytes : Bool) : List Char → Bool
  | 'x' :: rest => startsWithHex 2 rest
  | 'u' :: rest => isBytes || startsWithHex 4 rest
  | 'U' :: rest => isBytes || (startsWithHex 8 rest && isCodePoint rest)
  | 'N' :: rest => isBytes || startsWithName isName rest
  | _ => true

/-- Whether all escapes of a quoted text are complete. -/
def hasSoundEscapes (isBytes : Bool) : List Char → Bool
  | '\\' :: c :: rest => isEscape isName isBytes (c :: rest) && hasSoundEscapes isBytes rest
  | _ :: rest => hasSoundEscapes isBytes rest
  | [] => true

/-- The word that a quoted text is, if it is sound: bytes hold ASCII characters only. -/
def ofQuote? (quotation : Quotation) (inside : List Char) : Option LiteralToken :=
  let isSound :=
    (quotation.isRaw || hasSoundEscapes isName quotation.isBytes inside) &&
      (!quotation.isBytes || inside.all fun c => c.toNat ≤ 127)
  if isSound then
    some (if quotation.isBytes then .quotedBytes else .quotedText)
  else
    none

/-- The word that a name is. -/
def ofName? (name : List Char) : Option LiteralToken :=
  match String.ofList name with
  | "True" => some .constant
  | "False" => some .constant
  | "None" => some .constant
  | "set" => some .setName
  | _ => none

/-- The word that a punctuation mark is. -/
def ofMark? : Char → Option LiteralToken
  | '(' => some .leftParenthesis
  | ')' => some .rightParenthesis
  | '\x7b' => some .leftBrace
  | '\x7d' => some .rightBrace
  | ',' => some .comma
  | ':' => some .colon
  | '+' => some .plus
  | '-' => some .minus
  | _ => none

/-- A name or a quoted text, and what follows it. -/
def nameOrQuote? (text : List Char) : Option (LiteralToken × List Char) :=
  let name := text.takeWhile isNameChar
  match text.dropWhile isNameChar with
  | c :: rest =>
      if c == '\'' || c == '"' then do
        let quotation ← Quotation.ofLetters? name
        let (inside, after) ← quote? c rest
        let token ← ofQuote? isName quotation inside
        some (token, after)
      else
        (ofName? name).map fun token => (token, c :: rest)
  | [] => (ofName? name).map fun token => (token, [])

/-- The first word of a text that begins with one, and what follows it. -/
def first? (text : List Char) : Option (LiteralToken × List Char) :=
  match text with
  | '.' :: '.' :: '.' :: rest => some (.constant, rest)
  | c :: rest =>
      if c.isDigit || c == '.' && (rest.head?).any Char.isDigit then
        match number? text with
        | some (token, after) => if (after.head?).any isNameChar then none else some (token, after)
        | none => none
      else
        match ofMark? c with
        | some token => some (token, rest)
        | none => nameOrQuote? isName text
  | [] => none

/-- Whether a character may stand between words. -/
def isSpace (c : Char) : Bool :=
  c == ' ' || c == '\t' || c == '\x0c'

/-- How deep parentheses and braces may be nested. -/
def maxDepth : Nat := 200

/-- The depth after a word, if that is not too deep. -/
def depthAfter? (depth : Nat) : LiteralToken → Option Nat
  | .leftParenthesis => if depth < maxDepth then some (depth + 1) else none
  | .leftBrace => if depth < maxDepth then some (depth + 1) else none
  | .rightParenthesis => some (depth - 1)
  | .rightBrace => some (depth - 1)
  | _ => some depth

/-- The words of a text, `depth` being the number of open parentheses and braces. -/
def all? : Nat → Nat → List Char → Option (List LiteralToken)
  | 0, _, _ => none
  | _ + 1, _, [] => some []
  | fuel + 1, depth, c :: rest =>
      if isSpace c then
        all? fuel depth rest
      else if c == '\n' then
        if depth = 0 then
          (all? fuel depth rest).map fun tokens => .lineEnd :: tokens
        else
          all? fuel depth rest
      else if c == '#' then
        all? fuel depth (rest.dropWhile (· != '\n'))
      else if c == '\\' then
        match rest with
        | '\n' :: after => all? fuel depth after
        | _ => none
      else do
        let (token, after) ← first? isName (c :: rest)
        let newDepth ← depthAfter? depth token
        let tokens ← all? fuel newDepth after
        some (token :: tokens)

/-- A text without the empty lines before its first word, which must not be indented. -/
def withoutEmptyLines? : Nat → Bool → List Char → Option (List Char)
  | 0, _, _ => none
  | fuel + 1, wasIndented, text =>
      let blanks := text.takeWhile isSpace
      let isIndented := wasIndented || (blanks.getLast?).any (· != '\x0c')
      match text.dropWhile isSpace with
      | [] => none
      | '\n' :: rest => withoutEmptyLines? fuel false rest
      | '\\' :: '\n' :: rest => withoutEmptyLines? fuel isIndented rest
      | '#' :: rest => withoutEmptyLines? fuel false (rest.dropWhile (· != '\n'))
      | content => if isIndented then none else some content

/-- The words of a text. -/
def ofText? (text : List Char) : Option (List LiteralToken) :=
  let lines := Text.normalizeNewlines text
  if lines.contains '\x00' then
    none
  else do
    let content ← withoutEmptyLines? (lines.length + 1) false lines
    all? isName (content.length + 1) 0 content

end Names

end LiteralToken

end Recurrence.CommandLine
