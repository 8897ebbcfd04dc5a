import Recurrence.CommandLine.LiteralToken

namespace Recurrence.CommandLine

/-!
# Literals

A literal is a number, a text, a constant, or a tuple, set or mapping of literals.
Here only the shape of a literal counts: a sum needs a real and an imaginary number,
and what can be changed is no element of a set and no key of a mapping.
-/

/-- What counts about a part of a literal. -/
inductive LiteralShape where
  | number (isSigned isImaginary : Bool)
  | fixed
  | changeable
  | setName
  deriving Repr, DecidableEq

namespace LiteralShape

/-- Whether a part of a literal is a literal itself: the name of the empty set is none. -/
def isValue (shape : LiteralShape) : Bool :=
  shape != .setName

/-- Whether a part of a literal can be an element of a set. -/
def isFixed : LiteralShape → Bool
  | .number _ _ => true
  | .fixed => true
  | _ => false

/-- A tuple of literals, which can be changed if one of them can. -/
def tuple? (parts : List LiteralShape) : Option LiteralShape :=
  if parts.all isValue then
    some (if parts.all isFixed then .fixed else .changeable)
  else
    none

/-- Parts between parentheses: a tuple if there is a comma among them. -/
def group? (parts : List LiteralShape) (hasComma : Bool) : Option LiteralShape :=
  match parts, hasComma with
  | [part], false => some part
  | _, _ => tuple? parts

/-- A set of literals. -/
def set? (parts : List LiteralShape) : Option LiteralShape :=
  if parts.all isFixed then some .changeable else none

/-- A number with a sign before it. -/
def signed? : LiteralShape → Option LiteralShape
  | .number false isImaginary => some (.number true isImaginary)
  | _ => none

/-- The sum or difference of a real and an imaginary number. -/
def sum? (left right : LiteralShape) : Option LiteralShape :=
  match left, right with
  | .number _ false, .number false true => some .fixed
  | _, _ => none

end LiteralShape

namespace Literal

/-- What follows the given word, if a text begins with it. -/
def after? (token : LiteralToken) : List LiteralToken → Option (List LiteralToken)
  | first :: rest => if first = token then some rest else none
  | [] => none

mutual

/-- Reads a part without an operator; the name of the empty set may be called. -/
def operand? : Nat → List LiteralToken → Option (LiteralShape × List LiteralToken)
  | 0, _ => none
  | fuel + 1, tokens => do
      let (shape, rest) ← atom? fuel tokens
      match shape, rest with
      | .setName, .leftParenthesis :: .rightParenthesis :: others => some (.changeable, others)
      | _, _ => some (shape, rest)

/-- Reads a number, a text, a constant, or what stands in parentheses or braces. -/
def atom? : Nat → List LiteralToken → Option (LiteralShape × List LiteralToken)
  | 0, _ => none
  | _ + 1, [] => none
  | fuel + 1, token :: rest =>
      match token with
      | .number isImaginary => some (.number false isImaginary, rest)
      | .quotedText => some (.fixed, rest.dropWhile (· == .quotedText))
      | .quotedBytes => some (.fixed, rest.dropWhile (· == .quotedBytes))
      | .constant => some (.fixed, rest)
      | .setName => some (.setName, rest)
      | .leftParenthesis =>
          match rest with
          | .rightParenthesis :: others => some (.fixed, others)
          | _ => do
              let ((parts, hasComma), closing) ← parts? fuel rest
              let shape ← LiteralShape.group? parts hasComma
              let others ← after? .rightParenthesis closing
              some (shape, others)
      | .leftBrace =>
          match rest with
          | .rightBrace :: others => some (.changeable, others)
          | _ => collection? fuel rest
      | _ => none

/-- Reads a number with a sign, a sum of numbers, or a part without an operator. -/
def expression? : Nat → List LiteralToken → Option (LiteralShape × List LiteralToken)
  | 0, _ => none
  | fuel + 1, tokens => do
      let isOperator (token : LiteralToken) : Bool := token == .plus || token == .minus
      let isSigned := (tokens.head?).any isOperator
      let (operand, rest) ← operand? fuel (if isSigned then tokens.drop 1 else tokens)
      let left ← if isSigned then LiteralShape.signed? operand else some operand
      if (rest.head?).any isOperator then do
        let (right, others) ← operand? fuel (rest.drop 1)
        let sum ← LiteralShape.sum? left right
        some (sum, others)
      else
        some (left, rest)

/-- Reads parts with commas between them, and tells whether there is a comma. -/
def parts? : Nat → List LiteralToken →
    Option ((List LiteralShape × Bool) × List LiteralToken)
  | 0, _ => none
  | fuel + 1, tokens => do
      let (part, rest) ← expression? fuel tokens
      match rest with
      | .comma :: others =>
          match parts? fuel others with
          | some ((parts, _), closing) => some ((part :: parts, true), closing)
          | none => some (([part], true), others)
      | _ => some (([part], false), rest)

/-- Reads the set or mapping after an opening brace. -/
def collection? : Nat → List LiteralToken → Option (LiteralShape × List LiteralToken)
  | 0, _ => none
  | fuel + 1, tokens => do
      let (first, rest) ← expression? fuel tokens
      match rest with
      | .colon :: values => do
          let closing ← entries? fuel first values
          let others ← after? .rightBrace closing
          some (.changeable, others)
      | .comma :: more => do
          let (parts, closing) :=
            match parts? fuel more with
            | some ((parts, _), closing) => (parts, closing)
            | none => ([], more)
          let set ← LiteralShape.set? (first :: parts)
          let others ← after? .rightBrace closing
          some (set, others)
      | _ => do
          let set ← LiteralShape.set? [first]
          let others ← after? .rightBrace rest
          some (set, others)

/-- Reads the entries of a mapping after the first key and its colon. -/
def entries? : Nat → LiteralShape → List LiteralToken → Option (List LiteralToken)
  | 0, _, _ => none
  | fuel + 1, key, tokens => do
      let (value, rest) ← expression? fuel tokens
      if key.isFixed && value.isValue then
        match rest with
        | .comma :: .rightBrace :: others => some (.rightBrace :: others)
        | .comma :: others => do
            let (nextKey, more) ← expression? fuel others
            let values ← after? .colon more
            entries? fuel nextKey values
        | _ => some rest
      else
        none

end

/-- Whether words make a literal, with nothing but line ends after it. -/
def isLiteral (tokens : List LiteralToken) : Bool :=
  match parts? (4 * tokens.length + 4) tokens with
  | some ((parts, hasComma), rest) =>
      rest.all (· == .lineEnd) && (LiteralShape.group? parts hasComma).any LiteralShape.isValue
  | none => false

/-- Whether a text is a literal, `isName` telling the names of characters. -/
def isText (isName : List Char → Bool) (text : List Char) : Bool :=
  (LiteralToken.ofText? isName text).any isLiteral

end Literal

end Recurrence.CommandLine
