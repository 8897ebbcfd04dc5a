import Mathlib.Data.List.Dedup
import Mathlib.Data.List.Induction
import Recurrence.Value

namespace Recurrence.Fields

/-!
# Fields made of pairs

Fields made of pairs have one field for every key among the pairs, with the value that
the key was given last.  So nothing is lost exactly where no key comes twice.
-/

theorem has_eq_true_iff
    {α : Type}
    {fields : Fields α}
    {key : Wording} :
    fields.has key = true ↔ key ∈ fields.keys := by
  simp only [has, List.any_eq_true, beq_iff_eq, keys, List.mem_map]

theorem has_eq_isSome
    {α : Type}
    (fields : Fields α)
    (key : Wording) :
    fields.has key = (fields.get? key).isSome := by
  induction fields with
  | nil => rfl
  | cons field others inductionHypothesis =>
      rw [get?, List.lookup_cons, Bool.beq_comm (a := key), has, List.any_cons]
      cases field.1 == key with
      | false => exact inductionHypothesis
      | true => rfl

section Put

variable {α : Type} {fields : Fields α} {key other : Wording} {value : α}

theorem mem_keys_put :
    other ∈ (fields.put key value).keys ↔ other ∈ fields.keys ∨ other = key := by
  rw [keys_put]
  split
  · rename_i known
    constructor
    · exact Or.inl
    · rintro (inFields | rfl)
      · exact inFields
      · exact known
  · rw [List.mem_append, List.mem_singleton]

theorem nodup_keys_put
    (distinct : fields.keys.Nodup) :
    (fields.put key value).keys.Nodup := by
  rw [keys_put]
  split
  · exact distinct
  · rename_i new
    rw [← List.concat_eq_append]
    exact distinct.concat new

theorem put_of_new
    (new : key ∉ fields.keys) :
    fields.put key value = fields ++ [(key, value)] := by
  induction fields with
  | nil => rfl
  | cons field rest inductionHypothesis =>
      rw [keys, List.map_cons, List.mem_cons, not_or] at new
      rw [put, if_neg fun same => new.1 same.symm, inductionHypothesis new.2, List.cons_append]

theorem mem_put
    {field : Wording × α}
    (member : field ∈ fields.put key value) :
    field ∈ fields ∨ field = (key, value) := by
  induction fields with
  | nil => exact Or.inr (List.mem_singleton.mp member)
  | cons first others inductionHypothesis =>
      rw [put] at member
      split at member
      · rcases List.mem_cons.mp member with isNew | inOthers
        · exact Or.inr isNew
        · exact Or.inl (List.mem_cons_of_mem first inOthers)
      · rcases List.mem_cons.mp member with rfl | inRest
        · exact Or.inl List.mem_cons_self
        · rcases inductionHypothesis inRest with inOthers | isNew
          · exact Or.inl (List.mem_cons_of_mem first inOthers)
          · exact Or.inr isNew

/-- Putting a value under one key leaves the other keys alone. -/
theorem get?_put_of_ne
    (differs : other ≠ key) :
    (fields.put key value).get? other = fields.get? other := by
  induction fields with
  | nil =>
      have notKey : (other == key) = false := by simpa using differs
      rw [put, get?, List.lookup_cons, notKey]
      rfl
  | cons field rest inductionHypothesis =>
      rw [put]
      split
      · rename_i same
        have notField : (other == field.1) = false := by simpa [same] using differs
        have notKey : (other == key) = false := by simpa using differs
        rw [get?, get?, List.lookup_cons, List.lookup_cons, notKey, notField]
      · rw [get?, get?, List.lookup_cons, List.lookup_cons]
        split
        · rfl
        · exact inductionHypothesis

end Put

section Pairs

variable {α : Type} {pairs : List (Wording × α)} {key : Wording}

theorem ofPairs_concat
    (pair : Wording × α) :
    ofPairs (pairs ++ [pair]) = (ofPairs pairs).put pair.1 pair.2 := by
  rw [ofPairs, List.foldl_append]
  rfl

theorem mem_keys_ofPairs :
    key ∈ (ofPairs pairs).keys ↔ key ∈ pairs.map Prod.fst := by
  induction pairs using List.reverseRecOn with
  | nil => exact Iff.rfl
  | append_singleton pairs pair inductionHypothesis =>
      rw [ofPairs_concat, mem_keys_put, inductionHypothesis, List.map_append, List.mem_append,
        List.map_singleton, List.mem_singleton]

/-- No field is there that was not among the pairs. -/
theorem mem_ofPairs
    {field : Wording × α}
    (member : field ∈ ofPairs pairs) :
    field ∈ pairs := by
  induction pairs using List.reverseRecOn with
  | nil => cases member
  | append_singleton pairs pair inductionHypothesis =>
      rw [ofPairs_concat] at member
      rcases mem_put member with inPairs | rfl
      · exact List.mem_append_left _ (inductionHypothesis inPairs)
      · exact List.mem_append_right _ (List.mem_singleton.mpr rfl)

theorem nodup_keys_ofPairs
    (pairs : List (Wording × α)) :
    (ofPairs pairs).keys.Nodup := by
  induction pairs using List.reverseRecOn with
  | nil => exact List.nodup_nil
  | append_singleton pairs pair inductionHypothesis =>
      rw [ofPairs_concat]
      exact nodup_keys_put inductionHypothesis

/-- The value of a key is the last one that it was given. -/
theorem get?_ofPairs :
    (ofPairs pairs).get? key = pairs.reverse.lookup key := by
  induction pairs using List.reverseRecOn with
  | nil => rfl
  | append_singleton pairs pair inductionHypothesis =>
      rw [ofPairs_concat, List.reverse_append, List.reverse_singleton, List.singleton_append,
        List.lookup_cons]
      by_cases same : key = pair.1
      · rw [same, get?_put_self, beq_self_eq_true]
      · have differs : (key == pair.1) = false := by simpa using same
        rw [get?_put_of_ne same, inductionHypothesis, differs]

theorem get?_ofPairs_of_last
    {before after : List (Wording × α)}
    {value : α}
    (last : ∀ pair ∈ after, pair.1 ≠ key) :
    (ofPairs (before ++ (key, value) :: after)).get? key = some value := by
  have notLater : after.reverse.lookup key = none := by
    rw [List.lookup_eq_none_iff]
    intro pair member
    have differs := last pair (List.mem_reverse.mp member)
    simpa using differs.symm
  rw [get?_ofPairs, List.reverse_append, List.reverse_cons, List.append_assoc,
    List.lookup_append, notLater, List.singleton_append, List.lookup_cons, beq_self_eq_true]
  rfl

/-- Pairs of distinct keys are fields as they stand. -/
theorem ofPairs_of_nodup
    (distinct : (pairs.map Prod.fst).Nodup) :
    ofPairs pairs = pairs := by
  induction pairs using List.reverseRecOn with
  | nil => rfl
  | append_singleton pairs pair inductionHypothesis =>
      rw [List.map_append, List.map_singleton, List.nodup_append] at distinct
      obtain ⟨before, _, apart⟩ := distinct
      have new : pair.1 ∉ (ofPairs pairs).keys := by
        rw [mem_keys_ofPairs]
        exact fun known => apart _ known _ (List.mem_singleton.mpr rfl) rfl
      rw [ofPairs_concat, put_of_new new, inductionHypothesis before]

/-- There are as many fields as there are distinct keys. -/
theorem length_ofPairs :
    (ofPairs pairs).length = (pairs.map Prod.fst).dedup.length := by
  have sameKeys : (ofPairs pairs).keys.Perm (pairs.map Prod.fst).dedup := by
    rw [List.perm_ext_iff_of_nodup (nodup_keys_ofPairs pairs) (List.nodup_dedup _)]
    intro key
    rw [mem_keys_ofPairs, List.mem_dedup]
  rw [← sameKeys.length_eq, keys, List.length_map]

theorem length_ofPairs_eq_iff :
    (ofPairs pairs).length = pairs.length ↔ (pairs.map Prod.fst).Nodup := by
  rw [length_ofPairs]
  constructor
  · intro complete
    rw [← List.dedup_eq_self]
    apply (List.dedup_sublist _).eq_of_length
    rw [complete, List.length_map]
  · intro distinct
    rw [distinct.dedup, List.length_map]

end Pairs

end Recurrence.Fields
