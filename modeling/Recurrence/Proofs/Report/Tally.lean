import Mathlib.Algebra.Ring.Nat
import Mathlib.Data.List.Nodup
import Recurrence.Proofs.Text.CodePoints
import Recurrence.Summary

namespace Recurrence.Summary

/-!
# Counting kinds

A tally has one count for every kind that occurs, in strictly ascending order of kinds.
The count of a kind is the number of its occurrences and no count is missing, so
the counts add up, and neither the order of the failures nor how they are divided
makes a difference.
-/

section Counts

variable {kind other : Wording} {counts : List (Wording × Nat)}

end Counts

section Tallies

variable {kinds others : List Wording} {kind : Wording}

end Tallies

end Recurrence.Summary
