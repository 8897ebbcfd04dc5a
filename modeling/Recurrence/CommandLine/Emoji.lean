import Recurrence.CommandLine.EmojiName
import Recurrence.Text.Blank
import Recurrence.Text.LowerCase

namespace Recurrence.CommandLine

/-!
# Emoji codes

A name between two colons stands for an emoji.  After the name, `-emoji` asks for
its colored form and `-text` for its plain one, which a variation selector after
the emoji says.  A code whose name no emoji has stays as it is.
-/

/-- Whether a character can stand between the colons of a code. -/
def isInCode (c : Char) : Bool :=
  c != ':' && !Text.isBlank c

/-- The rest of a code after its first colon, without the second one, and what follows it. -/
def codeText? (text : List Char) : Option (List Char × List Char) :=
  match text.dropWhile isInCode with
  | ':' :: after => some (text.takeWhile isInCode, after)
  | _ => none

/-- What follows a code is shorter than the text it was read from. -/
theorem length_of_codeText?
    {text code after : List Char}
    (found : codeText? text = some (code, after)) :
    after.length < text.length := by
  have shorter : (text.dropWhile isInCode).length ≤ text.length :=
    (List.dropWhile_sublist isInCode).length_le
  unfold codeText? at found
  split at found
  · rename_i others shape
    rw [shape] at shorter
    cases found
    simp only [List.length_cons] at shorter
    omega
  · contradiction

/-- The name in a code, and the variation selector that its ending asks for. -/
def splitVariant (code : List Char) : List Char × List Char :=
  if "-emoji".toList.isSuffixOf code then
    (code.take (code.length - 6), ['\ufe0f'])
  else if "-text".toList.isSuffixOf code then
    (code.take (code.length - 5), ['\ufe0e'])
  else
    (code, [])

/-- What a code stands for. -/
def emojiOfCode? (code : List Char) : Option (List Char) :=
  let (name, selector) := splitVariant code
  (emojiOfName? (Text.lower name)).map fun emoji => emoji ++ selector

/-- A text with emoji in place of their codes. -/
def withEmoji : List Char → List Char
  | [] => []
  | c :: rest =>
      if c = ':' then
        match found : codeText? rest with
        | some (code, after) =>
            have := length_of_codeText? found
            (emojiOfCode? code).getD (':' :: (code ++ [':'])) ++ withEmoji after
        | none => c :: withEmoji rest
      else
        c :: withEmoji rest
  termination_by text => text.length

end Recurrence.CommandLine
