import Recurrence.CommandLine.Emoji
import Recurrence.CommandLine.TextStyle
import Recurrence.Text.Alphanumeric

namespace Recurrence.CommandLine

/-!
# Bracket markup

Text for the terminal may hold tags in square brackets.  An opening tag names a
style, a closing tag `[/style]` ends the last open one of that name, and `[/]`
the last open one of all.  On a plain terminal the styles have no effect, so the
tags vanish and only the text is left.  A backslash before a tag takes away its
meaning.  A tag that begins with an at sign names an action; what follows its equals
sign is the name of a handler, a literal, or both.  Which texts are literals is a
parameter `isLiteral`.
-/

/-- A tag in square brackets, with what comes after an equals sign in it. -/
structure Tag where
  name : List Char
  parameters : Option (List Char)
  deriving Repr, DecidableEq

/-- The tag of the text between brackets. -/
def Tag.ofText (text : List Char) : Tag :=
  match text.dropWhile (· != '=') with
  | [] => ⟨text, none⟩
  | _ :: parameters => ⟨text.takeWhile (· != '='), some parameters⟩

/-- Why a text is no markup, or names no style that can be shown. -/
inductive MarkupError where
  | notOpen
  | nothingOpen
  | noLiteral
  | color (fault : ColorFault)
  deriving Repr, DecidableEq

/-- The wording of the failure. -/
def MarkupError.message : MarkupError → String
  | .notOpen => "closing tag doesn't match any open tag"
  | .nothingOpen => "closing tag has nothing to close"
  | .noLiteral => "error parsing the parameters of a tag"
  | .color fault => fault.message

namespace Markup

/-- A piece of a text with markup. -/
inductive Piece where
  | plain (text : List Char)
  | tag (tag : Tag)
  deriving Repr, DecidableEq

/-- Whether a tag may begin with a character. -/
def startsTag (c : Char) : Bool :=
  ('a' ≤ c && c ≤ 'z') || c == '#' || c == '/' || c == '@'

/-- The text of a tag after its opening bracket, and what follows the closing one. -/
def tagText? : List Char → Option (List Char × List Char)
  | [] => none
  | first :: rest =>
      if startsTag first then
        let isInside (c : Char) : Bool := c != '[' && c != ']'
        match rest.dropWhile isInside with
        | ']' :: after => some (first :: rest.takeWhile isInside, after)
        | _ => none
      else
        none

/-- A text without the backslashes that stand before brackets. -/
def unescape : List Char → List Char
  | '\\' :: '[' :: rest => '[' :: unescape rest
  | c :: rest => c :: unescape rest
  | [] => []

/--
The pieces of a text; `pending` is plain text already passed, the last character
first.  Of the backslashes before a tag, each pair stands for one, and an odd one out
makes the tag plain text.
-/
def pieces : Nat → List Char → List Char → List Piece
  | 0, pending, _ => [.plain pending.reverse]
  | _ + 1, pending, [] => [.plain pending.reverse]
  | fuel + 1, pending, c :: rest =>
      let text := c :: rest
      let slashes := (text.takeWhile (· == '\\')).length
      let tag :=
        match text.drop slashes with
        | '[' :: inside => tagText? inside
        | _ => none
      match tag with
      | none => pieces fuel (c :: pending) rest
      | some (content, after) =>
          let before : List Piece :=
            [.plain pending.reverse, .plain (List.replicate (slashes / 2) '\\')]
          let here : Piece :=
            if slashes % 2 = 1 then
              .plain ('[' :: (content ++ [']']))
            else
              .tag (Tag.ofText content)
          before ++ here :: pieces fuel [] after

/-- A tag that is open, and the length of the text before it. -/
structure OpenTag where
  key : List Char
  parameters : Option (List Char)
  start : Nat
  deriving Repr, DecidableEq

namespace OpenTag

/-- Whether a tag names an action. -/
def isAction (tag : OpenTag) : Bool :=
  tag.key.head? == some '@'

/-- The style of a tag with its parameters. -/
def style (tag : OpenTag) : List Char :=
  match tag.parameters with
  | some parameters => tag.key ++ ' ' :: parameters
  | none => tag.key

/-- Whether a character can stand in the name of a handler. -/
def isInHandler (c : Char) : Bool :=
  Text.isWordChar c || c == '.'

section Closing

variable (isLiteral : List Char → Bool)

/--
Whether the parameters of an action can be read: the name of a handler alone or with
a literal in parentheses on one line, and otherwise a literal.
-/
def isReadable (parameters : List Char) : Bool :=
  match parameters.dropWhile isInHandler with
  | [] => true
  | rest =>
      let isCall := rest.head? == some '(' && rest.getLast? == some ')' && !rest.contains '\n'
      isLiteral (if isCall then rest else parameters)

/-- Whether a tag can be closed. -/
def canClose (tag : OpenTag) : Bool :=
  match tag.parameters with
  | some (c :: rest) => !tag.isAction || isReadable isLiteral (Text.trim (c :: rest))
  | _ => true

end Closing

end OpenTag

/-- A part of a text that has a style. -/
structure StyledPart where
  start : Nat
  finish : Nat
  style : List Char
  deriving Repr, DecidableEq

/-- What is known of a text with markup up to some place; the last tags and parts come first. -/
structure Rendering where
  text : List Char
  openTags : List OpenTag
  parts : List StyledPart
  deriving Repr, DecidableEq

/-- The last open tag of a key, and all others. -/
def lastOpen? (key : List Char) : List OpenTag → Option (OpenTag × List OpenTag)
  | [] => none
  | tag :: tags =>
      if tag.key = key then
        some (tag, tags)
      else
        (lastOpen? key tags).map fun (found, others) => (found, tag :: others)

namespace Rendering

/-- The part of a text from an open tag to its end. -/
def partSince (rendering : Rendering) (tag : OpenTag) : StyledPart :=
  ⟨tag.start, rendering.text.length, tag.style⟩

section Reading

variable (isLiteral : List Char → Bool)

/-- A text with one open tag closed, the others being given. -/
def close
    (rendering : Rendering)
    (tag : OpenTag)
    (others : List OpenTag) :
    Except MarkupError Rendering :=
  if tag.canClose isLiteral then
    .ok ⟨rendering.text, others, rendering.partSince tag :: rendering.parts⟩
  else
    .error .noLiteral

/-- A text after a closing tag: the last open tag of its name is closed, or the last one of all. -/
def closeNamed (rendering : Rendering) (name : List Char) : Except MarkupError Rendering :=
  if name.isEmpty then
    match rendering.openTags with
    | tag :: others => rendering.close isLiteral tag others
    | [] => .error .nothingOpen
  else do
    let key ← (TextStyle.key name).mapError .color
    match lastOpen? key rendering.openTags with
    | some (tag, others) => rendering.close isLiteral tag others
    | none => .error .notOpen

/-- A text with one more piece. -/
def withPiece (rendering : Rendering) (piece : Piece) : Except MarkupError Rendering :=
  match piece with
  | .plain text => .ok { rendering with text := rendering.text ++ withEmoji (unescape text) }
  | .tag tag =>
      match tag.name with
      | '/' :: name => rendering.closeNamed isLiteral (Text.trim name)
      | name => do
          let key ← (TextStyle.key name).mapError .color
          let opened : OpenTag := ⟨key, tag.parameters, rendering.text.length⟩
          return { rendering with openTags := opened :: rendering.openTags }

end Reading

/-- All parts of a text that have a style, those that begin first in front. -/
def allParts (rendering : Rendering) : List StyledPart :=
  let parts := (rendering.openTags.map rendering.partSince).reverse ++ rendering.parts
  parts.mergeSort fun part other => part.start ≤ other.start

/--
Why a color cannot be shown, if so.  Where a text is divided into lines or at tabs,
the styles of empty parts are not looked at.
-/
def fault? (rendering : Rendering) (isDivided : Bool) : Option ColorFault :=
  rendering.allParts.findSome? fun part =>
    if isDivided && part.start = part.finish then none else TextStyle.fault? part.style

end Rendering

/-- What is left of a text with markup on a plain terminal, with the styles of its parts. -/
def render
    (isLiteral : List Char → Bool)
    (text : List Char) :
    Except MarkupError Rendering :=
  (pieces text.length [] text).foldlM (Rendering.withPiece isLiteral) ⟨[], [], []⟩

end Markup

end Recurrence.CommandLine
