import Recurrence.Text.Blank
import Recurrence.Text.Cluster
import Recurrence.Text.Split

namespace Recurrence.CommandLine

/-!
# Lines of a terminal

A text is broken into lines of a given width before the first word that does not
fit; the space before that word stays at the end of the line.  A word wider than
a line is cut.  Control characters that move the cursor are left out, and tabs
go to the next multiple of eight cells.
-/

/-- A piece of a text and the place where it begins. -/
structure Word where
  start : Nat
  text : List Char
  deriving Repr, DecidableEq

/-- Whether a character moves the cursor: bell, backspace, vertical tab, form feed, return. -/
def movesCursor (c : Char) : Bool :=
  [7, 8, 11, 12, 13].contains c.toNat

/-- The white space at the start of a text, the word after it, and the white space after that. -/
def splitWord (text : List Char) : List Char × List Char :=
  let blanks := text.takeWhile Text.isBlank
  let fromWord := text.dropWhile Text.isBlank
  let isDark (c : Char) : Bool := !Text.isBlank c
  let dark := fromWord.takeWhile isDark
  let fromGap := fromWord.dropWhile isDark
  let gap := fromGap.takeWhile Text.isBlank
  (if dark.isEmpty then [] else blanks ++ dark ++ gap, fromGap.dropWhile Text.isBlank)

/-- The words of a text with the white space around them. -/
def wordsFrom : Nat → Nat → List Char → List Word
  | 0, _, _ => []
  | fuel + 1, start, text =>
      match splitWord text with
      | ([], _) => []
      | (word, rest) => ⟨start, word⟩ :: wordsFrom fuel (start + word.length) rest

/-- Pieces of a word, each as wide as fits; `room` is what is left of the current one. -/
def chop (width : Nat) : Nat → List Text.Cluster → List (List Char)
  | _, [] => [[]]
  | room, cluster :: rest =>
      if room < cluster.cells then
        match chop width (width - cluster.cells) rest with
        | piece :: pieces => [] :: (cluster.text ++ piece) :: pieces
        | [] => [[], cluster.text]
      else
        match chop width (room - cluster.cells) rest with
        | piece :: pieces => (cluster.text ++ piece) :: pieces
        | [] => [cluster.text]

/-- The places where pieces that follow each other begin. -/
def startsOf (start : Nat) : List (List Char) → List Nat
  | [] => []
  | piece :: pieces => start :: startsOf (start + piece.length) pieces

/-- The places where lines end, given the cells used up on the current line. -/
def breaks (width : Nat) : Nat → List Word → List Nat
  | _, [] => []
  | used, word :: words =>
      let visible := Text.cellLength (Text.trimEnd word.text)
      let cells := Text.cellLength word.text
      if used + visible ≤ width then
        breaks width (used + cells) words
      else if width < visible then
        let pieces := chop width width (Text.Cluster.ofText word.text)
        let starts := (startsOf word.start pieces).filter (· != 0)
        starts ++ breaks width (Text.cellLength ((pieces.getLast?).getD [])) words
      else if used != 0 && word.start != 0 then
        word.start :: breaks width cells words
      else
        breaks width used words

/-- A text cut at the given places. -/
def cutAt (text : List Char) : Nat → List Nat → List (List Char)
  | _, [] => [text]
  | start, place :: places =>
      text.take (place - start) :: cutAt (text.drop (place - start)) place places

/-- A line without the white space at its end that does not fit. -/
def dropOverhang (width : Nat) (line : List Char) : List Char :=
  let blanks := line.length - (Text.trimEnd line).length
  line.take (line.length - min blanks (line.length - width))

/-- As much as fits into some cells; a space stands for a wide unit of which half would fit. -/
def cropped : Nat → List Text.Cluster → List Char
  | _, [] => []
  | room, cluster :: rest =>
      if room = 0 then
        []
      else if room < cluster.cells then
        [' ']
      else
        cluster.text ++ cropped (room - cluster.cells) rest

/-- A line that is as wide as allowed at most. -/
def fitting (width : Nat) (line : List Char) : List Char :=
  if width < Text.cellLength line then cropped width (Text.Cluster.ofText line) else line

/-- The distance between two places that a tab goes to. -/
def tabDistance : Nat := 8

/-- A text before a tab with the spaces that the tab stands for, one at least. -/
def tabbed (text : List Char) : List Char :=
  let spaced := text ++ [' ']
  let surplus := Text.cellLength spaced % tabDistance
  spaced ++ List.replicate ((tabDistance - surplus) % tabDistance) ' '

/-- A line with spaces for tabs. -/
def expandTabs (line : List Char) : List Char :=
  let parts := Text.splitOn '\t' line
  (parts.dropLast.map tabbed).flatten ++ (parts.getLast?).getD []

/-- One line of text broken into lines of a width. -/
def wrapLine (width : Nat) (line : List Char) : List (List Char) :=
  let expanded := expandTabs line
  let places := breaks width 0 (wordsFrom (expanded.length + 1) 0 expanded)
  (cutAt expanded 0 places).map fun line => fitting width (dropOverhang width line)

/-- A text broken into lines of a width. -/
def wrap (width : Nat) (text : List Char) : List (List Char) :=
  (Text.splitOn '\n' (text.filter fun c => !movesCursor c)).flatMap (wrapLine width)

end Recurrence.CommandLine
