namespace Recurrence

/-!
# Sets of integers

A set of integers is kept as the ascending list of its members, so two sets with
the same members are equal whatever order and repetition they were given in.
-/

/-- A finite set of integers, kept in ascending order. -/
structure IntegerSet where
  toList : List Int
  ascending : toList.Pairwise (· < ·)
  deriving Repr, DecidableEq

namespace IntegerSet

/-- Membership is membership in the list of members. -/
instance : Membership Int IntegerSet := ⟨fun set member => member ∈ set.toList⟩

instance (member : Int) (set : IntegerSet) : Decidable (member ∈ set) :=
  inferInstanceAs (Decidable (member ∈ set.toList))

/-- Membership in a set is membership in its list. -/
theorem mem_iff
    {member : Int}
    {set : IntegerSet} :
    member ∈ set ↔ member ∈ set.toList :=
  Iff.rfl

/-- Puts a number into an ascending list, unless it is there already. -/
def insertInto (number : Int) : List Int → List Int
  | [] => [number]
  | first :: rest =>
      if number < first then
        number :: first :: rest
      else if number = first then
        first :: rest
      else
        first :: insertInto number rest

/-- A number put into a list joins the members of the list. -/
theorem mem_insertInto
    {member number : Int}
    {numbers : List Int} :
    member ∈ insertInto number numbers ↔ member = number ∨ member ∈ numbers := by
  induction numbers with
  | nil => simp [insertInto]
  | cons first rest inductionHypothesis =>
      rw [insertInto]
      split
      · simp
      · split
        · rename_i same
          simp [same]
        · simp only [List.mem_cons, inductionHypothesis]
          constructor
          · rintro (isFirst | isNumber | inRest)
            · exact Or.inr (Or.inl isFirst)
            · exact Or.inl isNumber
            · exact Or.inr (Or.inr inRest)
          · rintro (isNumber | isFirst | inRest)
            · exact Or.inr (Or.inl isNumber)
            · exact Or.inl isFirst
            · exact Or.inr (Or.inr inRest)

/-- Putting a number into an ascending list keeps the list ascending. -/
theorem pairwise_insertInto
    {number : Int}
    {numbers : List Int}
    (ascending : numbers.Pairwise (· < ·)) :
    (insertInto number numbers).Pairwise (· < ·) := by
  induction numbers with
  | nil => simp [insertInto]
  | cons first rest inductionHypothesis =>
      have head := (List.pairwise_cons.mp ascending).1
      have tail := (List.pairwise_cons.mp ascending).2
      rw [insertInto]
      split
      · rename_i below
        refine List.pairwise_cons.mpr ⟨fun member inside => ?_, ascending⟩
        rcases List.mem_cons.mp inside with isFirst | inRest
        · exact isFirst ▸ below
        · exact Int.lt_trans below (head member inRest)
      · split
        · exact ascending
        · refine List.pairwise_cons.mpr ⟨fun member inside => ?_, inductionHypothesis tail⟩
          rcases mem_insertInto.mp inside with isNumber | inRest
          · subst isNumber
            omega
          · exact head member inRest

/-- The ascending list of the members of a list. -/
def sorted : List Int → List Int
  | [] => []
  | number :: rest => insertInto number (sorted rest)

/-- Sorting keeps the members. -/
theorem mem_sorted
    {member : Int}
    {numbers : List Int} :
    member ∈ sorted numbers ↔ member ∈ numbers := by
  induction numbers with
  | nil => simp [sorted]
  | cons first rest inductionHypothesis =>
      rw [sorted, mem_insertInto, inductionHypothesis, List.mem_cons]

/-- A sorted list ascends. -/
theorem pairwise_sorted
    (numbers : List Int) :
    (sorted numbers).Pairwise (· < ·) := by
  induction numbers with
  | nil => exact List.Pairwise.nil
  | cons first rest inductionHypothesis => exact pairwise_insertInto inductionHypothesis

/-- The set of the members of a list. -/
def ofList (numbers : List Int) : IntegerSet :=
  ⟨sorted numbers, pairwise_sorted numbers⟩

/-- The members of the set of a list are the members of the list. -/
@[simp] theorem mem_ofList
    {member : Int}
    {numbers : List Int} :
    member ∈ ofList numbers ↔ member ∈ numbers :=
  mem_sorted

/-- A number below all of a list goes in front. -/
theorem insertInto_of_forall_lt
    {number : Int}
    {numbers : List Int}
    (below : ∀ member ∈ numbers, number < member) :
    insertInto number numbers = number :: numbers := by
  cases numbers with
  | nil => rfl
  | cons first rest => rw [insertInto, if_pos (below first List.mem_cons_self)]

/-- An ascending list is sorted already. -/
theorem sorted_of_pairwise
    {numbers : List Int}
    (ascending : numbers.Pairwise (· < ·)) :
    sorted numbers = numbers := by
  induction numbers with
  | nil => rfl
  | cons first rest inductionHypothesis =>
      obtain ⟨below, tail⟩ := List.pairwise_cons.mp ascending
      rw [sorted, inductionHypothesis tail, insertInto_of_forall_lt below]

/-- The members of a set make the set. -/
@[simp] theorem ofList_toList
    (set : IntegerSet) :
    ofList set.toList = set := by
  cases set with
  | mk numbers ascending => simp only [ofList, sorted_of_pairwise ascending]

/-- The set without members. -/
def empty : IntegerSet :=
  ⟨[], List.Pairwise.nil⟩

/-- Whether a set has no members. -/
def isEmpty (set : IntegerSet) : Bool :=
  set.toList.isEmpty

end IntegerSet

end Recurrence
