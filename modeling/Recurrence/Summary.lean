import Recurrence.Case

namespace Recurrence

/-!
# Summaries

A summary counts the outcomes of a batch: all of them, those with a date, those
that failed, and the failures of each kind in ascending order of kinds.  Failures
without a kind are counted under `null`; they have no place in the order, so
they cannot be counted beside failures that have a kind.
-/

/-- The counts of a batch. -/
structure Summary where
  total : Nat
  computed : Nat
  failed : Nat
  errors : List (Wording × Nat)
  deriving Repr, DecidableEq

/-- Failures with a kind beside failures without one. -/
structure MixedKinds where
  unnamedFirst : Bool
  deriving Repr, DecidableEq

/-- The wording of the failure, which names the later kind first. -/
def MixedKinds.message (mixed : MixedKinds) : String :=
  if mixed.unnamedFirst then
    "'<' not supported between instances of 'str' and 'NoneType'"
  else
    "'<' not supported between instances of 'NoneType' and 'str'"

namespace Summary

/-- Counts one more failure of a kind, in ascending order of kinds. -/
def countKind (kind : Wording) : List (Wording × Nat) → List (Wording × Nat)
  | [] => [(kind, 1)]
  | (first, count) :: rest =>
      if kind < first then
        (kind, 1) :: (first, count) :: rest
      else if kind = first then
        (first, count + 1) :: rest
      else
        (first, count) :: countKind kind rest

/-- The number of failures of each kind, in ascending order of kinds. -/
def tally (kinds : List Wording) : List (Wording × Nat) :=
  kinds.foldr countKind []

/-- The kinds of the failed outcomes, in order. -/
def failureKinds (outcomes : List Outcome) : List (Option Wording) :=
  (outcomes.filter fun outcome => !outcome.isOk).map Outcome.errorKind

/-- The counts of failures by kind. -/
def countKinds (kinds : List (Option Wording)) : Except MixedKinds (List (Wording × Nat)) :=
  let named := kinds.filterMap id
  let unnamed := kinds.countP Option.isNone
  if unnamed = 0 then
    .ok (tally named)
  else if named.isEmpty then
    .ok [("null", unnamed)]
  else
    .error ⟨kinds.head? == some none⟩

/-- The summary of outcomes. -/
def ofOutcomes (outcomes : List Outcome) : Except MixedKinds Summary := do
  let kinds := failureKinds outcomes
  let errors ← countKinds kinds
  return ⟨outcomes.length, outcomes.countP Outcome.isOk, kinds.length, errors⟩

/-- A summary as an object. -/
def toValue (summary : Summary) : Value :=
  .object [("total", .integer summary.total), ("computed", .integer summary.computed),
    ("failed", .integer summary.failed),
    ("errors", .object (summary.errors.map fun (kind, count) => (kind, .integer count)))]

/-- A summary as an indented JSON document. -/
def text (summary : Summary) : List Char :=
  Json.write (.indented 4) summary.toValue

end Summary

end Recurrence
