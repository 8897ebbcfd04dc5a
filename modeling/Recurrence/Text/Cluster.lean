import Recurrence.Text.CellWidth

namespace Recurrence.Text

/-!
# Clusters of characters

Characters that are shown as one unit are never cut apart: a combining character
belongs to the one before it, a joiner joins the character after it to the one before
it, and a variation selector belongs to the symbol whose form it selects.
-/

/-- Characters that are shown as one unit. -/
structure Cluster where
  text : List Char
  cells : Nat
  deriving Repr, DecidableEq

namespace Cluster

/-- Clusters, the last one first, with more characters in the last one. -/
def extend (text : List Char) (cells : Nat) : List Cluster → List Cluster
  | [] => [⟨text, cells⟩]
  | cluster :: others => ⟨cluster.text ++ text, cluster.cells + cells⟩ :: others

/--
The clusters of a text after those that are passed, the last one first; `last` is the
last character that takes cells, unless it became wide.
-/
def after : List Cluster → Option Char → List Char → List Cluster
  | passed, _, [] => passed.reverse
  | passed, last, c :: rest =>
      if c = joiner then
        if passed.isEmpty then
          after [⟨[c], 0⟩] last rest
        else
          match rest with
          | next :: others => after (extend [c, next] 0 passed) last others
          | [] => (extend [c] 0 passed).reverse
      else if c = emojiSelector then
        if last.any hasEmojiStyle then
          after (extend [c] 1 passed) none rest
        else
          after (extend [c] 0 passed) last rest
      else
        let cells := cellWidth c
        if cells = 0 then
          after (extend [c] 0 passed) last rest
        else
          after (⟨[c], cells⟩ :: passed) (some c) rest

/-- The clusters of a text. -/
def ofText (text : List Char) : List Cluster :=
  after [] none text

end Cluster

end Recurrence.Text
