namespace Recurrence.Text

/-!
# Ranges of code points

Classes of characters are tables of inclusive ranges of code points in ascending
order.
-/

/-- Whether a code point lies in one of some ranges. -/
def inRanges (ranges : List (Nat × Nat)) (code : Nat) : Bool :=
  ranges.any fun (first, last) => first ≤ code && code ≤ last

end Recurrence.Text
