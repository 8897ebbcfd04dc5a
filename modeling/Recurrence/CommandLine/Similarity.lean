namespace Recurrence.CommandLine

/-!
# Similar words

Two words are compared by what they have in common: their longest common block,
and in turn the common blocks before it and after it.  The similarity is twice
the number of common characters over the length of both words.
-/

/-- The length of the common start of two words. -/
def commonStart : List Char → List Char → Nat
  | a :: as, b :: bs => if a = b then commonStart as bs + 1 else 0
  | _, _ => 0

/-- A block of characters that two words share: where it begins in each, and its length. -/
structure Block where
  left : Nat
  right : Nat
  length : Nat
  deriving Repr, DecidableEq

/-- The blocks that two words share, one for each pair of places. -/
def blocks (left right : List Char) : List Block :=
  (List.range left.length).flatMap fun i =>
    (List.range right.length).map fun j =>
      ⟨i, j, commonStart (left.drop i) (right.drop j)⟩

/-- The first of the longest blocks that two words share. -/
def longestBlock (left right : List Char) : Block :=
  (blocks left right).foldl (fun best block => if best.length < block.length then block else best)
    ⟨0, 0, 0⟩

/-- The number of characters in the common blocks of two words.  `fuel` bounds the depth. -/
def commonCount : Nat → List Char → List Char → Nat
  | 0, _, _ => 0
  | fuel + 1, left, right =>
      let block := longestBlock left right
      if block.length = 0 then
        0
      else
        commonCount fuel (left.take block.left) (right.take block.right) + block.length +
          commonCount fuel (left.drop (block.left + block.length))
            (right.drop (block.right + block.length))

/-- The characters that two words share, counted in both of them. -/
def sharedCharacters (left right : List Char) : Nat :=
  2 * commonCount left.length left right

/-- Whether two words are similar: at least 0.6 of their characters are shared. -/
def areSimilar (left right : List Char) : Bool :=
  6 * (left.length + right.length) ≤ 10 * sharedCharacters left right

/-- The known words most similar to a word, three at most, in alphabetical order. -/
def similarWords (known : List String) (word : String) : List String :=
  let similar := known.filter fun name => areSimilar name.toList word.toList
  let isBetter (a b : String) : Bool :=
    let left := sharedCharacters a.toList word.toList * (b.length + word.length)
    let right := sharedCharacters b.toList word.toList * (a.length + word.length)
    right < left || (left == right && b ≤ a)
  ((similar.mergeSort isBetter).take 3).mergeSort fun a b => a ≤ b

end Recurrence.CommandLine
