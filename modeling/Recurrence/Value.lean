import Recurrence.Number.RealText
import Recurrence.Text.Split
import Recurrence.Text.Wording

namespace Recurrence

/-!
# Document values

JSON and NestedText documents hold the same kind of values.  The fields of an
object keep the order in which their keys first came, and every key has one
field: `Fields.put` replaces the value of a key at its old place.  `Value.label`
is the text of any value where a name is wanted.
-/

/-- Why a document cannot be written: UTF-8 has no bytes for half of a surrogate pair. -/
inductive WriteError where
  | brokenText
  deriving Repr, DecidableEq

/-- A value of a document. -/
inductive Value where
  | null
  | boolean (truth : Bool)
  | integer (number : Int)
  | real (number : Binary64)
  | text (content : Wording)
  | list (items : List Value)
  | object (fields : List (Wording × Value))
  deriving Repr

/-- The fields of an object, in order. -/
abbrev Fields (α : Type) := List (Wording × α)

namespace Fields

variable {α : Type}

/-- The value of a key. -/
def get? (fields : Fields α) (key : Wording) : Option α :=
  fields.lookup key

/-- Whether a key has a value. -/
def has (fields : Fields α) (key : Wording) : Bool :=
  fields.any fun field => field.1 == key

/-- Gives a key a value: at the place the key has already, or else at the end. -/
def put (fields : Fields α) (key : Wording) (value : α) : Fields α :=
  match fields with
  | [] => [(key, value)]
  | field :: rest =>
      if field.1 = key then
        (key, value) :: rest
      else
        field :: put rest key value

/-- The fields with a new one at the end. -/
def add (fields : Fields α) (key : Wording) (value : α) : Fields α :=
  fields ++ [(key, value)]

/-- The fields of a list of keys and values; the last value of a key counts. -/
def ofPairs (pairs : List (Wording × α)) : Fields α :=
  pairs.foldl (fun fields pair => fields.put pair.1 pair.2) []

/-- The keys, in order. -/
def keys (fields : Fields α) : List Wording :=
  fields.map Prod.fst

/-- A key that was given a value has that value. -/
theorem get?_put_self
    (fields : Fields α)
    (key : Wording)
    (value : α) :
    (fields.put key value).get? key = some value := by
  induction fields with
  | nil => simp [put, get?]
  | cons field rest inductionHypothesis =>
      rw [put]
      split
      · simp [get?]
      · rename_i differs
        rw [get?, List.lookup_cons]
        have differsBack : (key == field.1) = false := by
          simpa using fun same : key = field.1 => differs same.symm
        rw [differsBack]
        exact inductionHypothesis

/-- A known key keeps the order of the keys; a new key comes last. -/
theorem keys_put
    (fields : Fields α)
    (key : Wording)
    (value : α) :
    (fields.put key value).keys =
      if key ∈ fields.keys then fields.keys else fields.keys ++ [key] := by
  induction fields with
  | nil => simp [put, keys]
  | cons field rest inductionHypothesis =>
      rw [put]
      split
      · rename_i same
        simp [keys, same]
      · rename_i differs
        have differsBack : key ≠ field.1 := fun same => differs same.symm
        simp only [keys, List.map_cons] at inductionHypothesis ⊢
        rw [inductionHypothesis]
        by_cases known : key ∈ rest.map Prod.fst
        · simp [known]
        · simp [known, differsBack]

end Fields

namespace Value

mutual

/-- The text of a value inside another value: texts are quoted. -/
def inner : Value → List Char
  | .null => "None".toList
  | .boolean truth => (if truth then "True" else "False").toList
  | .integer number => Text.integerText number
  | .real number => number.text .plain
  | .text content => content.quoted
  | .list items => '[' :: (innerItems items ++ [']'])
  | .object fields => '\x7b' :: (innerFields fields ++ ['\x7d'])

/-- The texts of the items of a list, separated by commas and spaces. -/
def innerItems : List Value → List Char
  | [] => []
  | [item] => item.inner
  | item :: next :: items => item.inner ++ ", ".toList ++ innerItems (next :: items)

/-- The texts of the fields of an object, separated by commas and spaces. -/
def innerFields : List (Wording × Value) → List Char
  | [] => []
  | [(key, value)] => key.quoted ++ ": ".toList ++ value.inner
  | (key, value) :: next :: fields =>
      key.quoted ++ ": ".toList ++ value.inner ++ ", ".toList ++
        innerFields (next :: fields)

end

/-- The text of a value as a name: a text stands for itself. -/
def label : Value → Wording
  | .text content => content
  | value => .whole (String.ofList value.inner)

mutual

/-- Whether all texts in a value are whole. -/
def isWhole : Value → Bool
  | .text content => content.isWhole
  | .list items => allWhole items
  | .object fields => fieldsWhole fields
  | _ => true

/-- Whether all texts in the items of a list are whole. -/
def allWhole : List Value → Bool
  | [] => true
  | item :: items => item.isWhole && allWhole items

/-- Whether all keys and all texts in the values of the fields of an object are whole. -/
def fieldsWhole : List (Wording × Value) → Bool
  | [] => true
  | (key, value) :: fields => key.isWhole && value.isWhole && fieldsWhole fields

end

end Value

end Recurrence
