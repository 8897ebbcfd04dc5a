import Recurrence.CommandLine.ColorName
import Recurrence.Text.Blank

namespace Recurrence.CommandLine

/-!
# Styles of text

A style is a set of words: traits such as `bold` or `not italic`, a color, a
background after `on`, and the target of a link after `link`.  Of two words for the
same thing the last one counts.  Every style has one text, so two spellings of a
style are the same when their texts are.
-/

/-- What can be said of text besides its color. -/
inductive TextTrait where
  | bold
  | dim
  | italic
  | underline
  | blink
  | blinkFast
  | reverse
  | conceal
  | strike
  | underlineTwice
  | frame
  | encircle
  | overline
  deriving Repr, DecidableEq

namespace TextTrait

/-- All traits, in the order in which a style lists them. -/
def all : List TextTrait :=
  [.bold, .dim, .italic, .underline, .blink, .blinkFast, .reverse, .conceal, .strike,
    .underlineTwice, .frame, .encircle, .overline]

/-- The name of a trait. -/
def name : TextTrait → String
  | .bold => "bold"
  | .dim => "dim"
  | .italic => "italic"
  | .underline => "underline"
  | .blink => "blink"
  | .blinkFast => "blink2"
  | .reverse => "reverse"
  | .conceal => "conceal"
  | .strike => "strike"
  | .underlineTwice => "underline2"
  | .frame => "frame"
  | .encircle => "encircle"
  | .overline => "overline"

/-- The short name of a trait, if it has one. -/
def shortName? : TextTrait → Option String
  | .bold => some "b"
  | .dim => some "d"
  | .italic => some "i"
  | .underline => some "u"
  | .reverse => some "r"
  | .conceal => some "c"
  | .strike => some "s"
  | .underlineTwice => some "uu"
  | .overline => some "o"
  | _ => none

/-- The trait of a name or a short name. -/
def ofName? (word : List Char) : Option TextTrait :=
  let spelling := String.ofList word
  all.find? fun trait => trait.name == spelling || trait.shortName? == some spelling

end TextTrait

/-- A style; a trait that it does not mention has no value. -/
structure TextStyle where
  trait : TextTrait → Option Bool
  color : Option (List Char)
  background : Option (List Char)
  link : Option (List Char)

/-- Why words are no style. -/
inductive StyleError where
  | noStyle
  | color (fault : ColorFault)
  deriving Repr, DecidableEq

namespace TextStyle

/-- The style that says nothing. -/
def plain : TextStyle :=
  ⟨fun _ => none, none, none, none⟩

/-- A style with one trait changed. -/
def withTrait
    (style : TextStyle)
    (trait : TextTrait)
    (value : Bool) :
    TextStyle :=
  { style with trait := fun other =>
      if other = trait then some value else style.trait other }

/-- The color that a word names. -/
def readColor (word : List Char) : Except StyleError (List Char) :=
  match colorName? word with
  | .ok (some name) => .ok name
  | .ok none => .error .noStyle
  | .error fault => .error (.color fault)

/-- The words of a text. -/
def words (text : List Char) : List (List Char) :=
  (Text.splitOn ' ' (text.map fun c => if Text.isBlank c then ' ' else c)).filter
    fun word => !word.isEmpty

/-- A style with what more words say. -/
def withWords (style : TextStyle) : List (List Char) → Except StyleError TextStyle
  | [] => .ok style
  | word :: rest =>
      let key := String.ofList (Text.lower word)
      if key = "on" then
        match rest with
        | [] => .error .noStyle
        | color :: others => do
            let name ← readColor color
            withWords { style with background := some name } others
      else if key = "not" then
        match rest with
        | [] => .error .noStyle
        | name :: others =>
            match TextTrait.ofName? name with
            | some trait => withWords (style.withTrait trait false) others
            | none => .error .noStyle
      else if key = "link" then
        match rest with
        | [] => .error .noStyle
        | target :: others => withWords { style with link := some target } others
      else
        match TextTrait.ofName? key.toList with
        | some trait => withWords (style.withTrait trait true) rest
        | none => do
            let name ← readColor key.toList
            withWords { style with color := some name } rest

/-- The style of a text; `none` stands for the style that says nothing. -/
def read (text : List Char) : Except StyleError TextStyle :=
  if Text.trim text = "none".toList then
    .ok plain
  else
    withWords plain (words text)

/-- The word or words that a style has for one of its traits. -/
def traitWords (style : TextStyle) (trait : TextTrait) : List String :=
  match style.trait trait with
  | some true => [trait.name]
  | some false => ["not", trait.name]
  | none => []

/-- The words of a style. -/
def toWords (style : TextStyle) : List String :=
  let background :=
    match style.background with
    | some name => ["on", String.ofList name]
    | none => []
  let link :=
    match style.link with
    | some target => ["link", String.ofList target]
    | none => []
  TextTrait.all.flatMap style.traitWords ++
    (style.color.toList.map String.ofList ++ background ++ link)

/-- The one text of a style. -/
def toText (style : TextStyle) : List Char :=
  match style.toWords with
  | [] => "none".toList
  | words => (String.intercalate " " words).toList

/--
One text for all spellings of a style, and for all spellings of anything else that
differ in case and white space around them only.
-/
def key (name : List Char) : Except ColorFault (List Char) :=
  match read name with
  | .ok style => .ok style.toText
  | .error .noStyle => .ok (Text.lower (Text.trim name))
  | .error (.color fault) => .error fault

/-- Why the color in the text of a style cannot be read, if so. -/
def fault? (text : List Char) : Option ColorFault :=
  match read text with
  | .error (.color fault) => some fault
  | _ => none

end TextStyle

end Recurrence.CommandLine
