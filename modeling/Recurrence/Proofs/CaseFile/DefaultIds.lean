import Mathlib.Data.List.Nodup
import Recurrence.CaseFile
import Recurrence.Error.Result
import Recurrence.Proofs.Value.Fields

namespace Recurrence

/-!
# Cases without ids of their own

In a list such cases are named by their positions, in an object by their keys.  If no
case of a file has an id of its own, the ids are therefore as distinct as the keys.
-/

theorem toString_injective
    {number other : Nat}
    (same : toString number = toString other) :
    number = other := by
  have sameDigits : Text.naturalText number = Text.naturalText other := by
    have texts : String.ofList (Text.naturalText number) = String.ofList (Text.naturalText other) :=
      same
    exact String.ofList_injective texts
  rw [← Text.naturalOfDigits_naturalText number, sameDigits, Text.naturalOfDigits_naturalText]

/-- The id of a case is the label of its field. -/
theorem Case.labelField_of_ofFields
    {fields : Fields Value}
    {request : Case}
    (described : Case.ofFields fields = .ok request) :
    labelField fields "case_id" = .ok request.id := by
  simp only [Case.ofFields] at described
  split at described
  · rename_i isId isDate isRule isNow
    cases described
    exact isId
  · cases described

namespace CaseFile

variable {path : String}

/-- A case without an id is named by its position. -/
theorem id_of_withId
    {record : Fields Value}
    {position : Nat}
    {request : Case}
    (nameless : record.has "case_id" = false)
    (described : Case.ofFields (withId position record) = .ok request) :
    request.id = .whole (toString position) := by
  have label := Case.labelField_of_ofFields described
  rw [withId, nameless, labelField] at label
  simp only [Bool.false_eq_true, ↓reduceIte, Fields.get?_put_self] at label
  exact (Except.ok.inj label).symm

theorem ids_of_casesOfRecords
    {records : List (Fields Value)}
    {position : Nat}
    {cases : List Case}
    (nameless : ∀ record ∈ records, record.has "case_id" = false)
    (described : casesOfRecords position records = .ok cases) :
    cases.map Case.id =
      (List.range' position records.length).map fun number => .whole (toString number) := by
  induction records generalizing position cases with
  | nil =>
      cases described
      rfl
  | cons record records inductionHypothesis =>
      rw [casesOfRecords, bind_eq_ok_iff] at described
      obtain ⟨first, firstDescribed, described⟩ := described
      obtain ⟨rest, restDescribed, made⟩ := bind_eq_ok_iff.mp described
      cases made
      rw [mapError_eq_ok_iff] at firstDescribed
      obtain ⟨recordNameless, restNameless⟩ := List.forall_mem_cons.mp nameless
      rw [List.map_cons, id_of_withId recordNameless firstDescribed,
        inductionHypothesis restNameless restDescribed, List.length_cons, List.range'_succ,
        List.map_cons]

theorem object_mem_of_listRecords
    {index : Nat}
    {items : List Value}
    {records : List (Fields Value)}
    (listed : listRecords path index items = .ok records) :
    ∀ record ∈ records, Value.object record ∈ items := by
  induction items generalizing index records with
  | nil =>
      cases listed
      exact nofun
  | cons item items inductionHypothesis =>
      cases item with
      | object fields =>
          rw [listRecords, bind_eq_ok_iff] at listed
          obtain ⟨rest, restListed, made⟩ := listed
          cases made
          intro record member
          rcases List.mem_cons.mp member with rfl | inRest
          · exact List.mem_cons_self
          · exact List.mem_cons_of_mem _ (inductionHypothesis restListed record inRest)
      | _ => cases listed

/-- The cases of a list are named by their positions if none of them has an id. -/
theorem nodup_ids_of_list
    {items : List Value}
    {cases : List Case}
    (nameless : ∀ record : Fields Value, .object record ∈ items → record.has "case_id" = false)
    (loaded : casesOf path (.list items) = .ok cases) :
    (cases.map Case.id).Nodup := by
  rw [casesOf, bind_eq_ok_iff] at loaded
  obtain ⟨found, listed, described⟩ := loaded
  have recordsNameless : ∀ record ∈ found, record.has "case_id" = false := fun record member =>
    nameless record (object_mem_of_listRecords listed record member)
  rw [ids_of_casesOfRecords recordsNameless described]
  have positions : (List.range' 0 found.length).Nodup := List.nodup_range'
  exact positions.map fun _ _ same => toString_injective (Wording.whole.inj same)

/-- A case in an object without an id of its own is named by its key. -/
theorem id_of_key
    {key : Wording}
    {inner : Fields Value}
    {position : Nat}
    {request : Case}
    (nameless : inner.has "case_id" = false)
    (described :
      Case.ofFields (withId position (Fields.ofPairs (("case_id", .text key) :: inner))) =
        .ok request) :
    request.id = key := by
  have label := Case.labelField_of_ofFields described
  have known : (Fields.ofPairs (("case_id", .text key) :: inner)).has "case_id" = true := by
    rw [Fields.has_eq_true_iff, Fields.mem_keys_ofPairs]
    exact List.mem_cons_self
  have others : ∀ pair ∈ inner, pair.1 ≠ "case_id" := by
    intro pair member same
    have inside := Fields.has_eq_true_iff.mpr (List.mem_map.mpr ⟨pair, member, same⟩)
    rw [nameless] at inside
    cases inside
  have given :
      (Fields.ofPairs ([] ++ (("case_id" : Wording), Value.text key) :: inner)).get? "case_id" =
        some (.text key) :=
    Fields.get?_ofPairs_of_last others
  rw [List.nil_append] at given
  rw [withId, known, labelField] at label
  simp only [↓reduceIte, given] at label
  exact (Except.ok.inj label).symm

theorem ids_of_objectRecords
    {fields : Fields Value}
    {records : List (Fields Value)}
    {position : Nat}
    {cases : List Case}
    (nameless : ∀ field ∈ fields, ∀ inner : Fields Value,
      field.2 = .object inner → inner.has "case_id" = false)
    (found : objectRecords path fields = .ok records)
    (described : casesOfRecords position records = .ok cases) :
    cases.map Case.id = fields.keys := by
  induction fields generalizing records position cases with
  | nil =>
      cases found
      cases described
      rfl
  | cons field fields inductionHypothesis =>
      obtain ⟨key, value⟩ := field
      obtain ⟨fieldNameless, othersNameless⟩ := List.forall_mem_cons.mp nameless
      cases value with
      | object inner =>
          rw [objectRecords, bind_eq_ok_iff] at found
          obtain ⟨others, othersFound, made⟩ := found
          cases made
          rw [casesOfRecords, bind_eq_ok_iff] at described
          obtain ⟨first, firstDescribed, described⟩ := described
          obtain ⟨rest, restDescribed, made⟩ := bind_eq_ok_iff.mp described
          cases made
          rw [mapError_eq_ok_iff] at firstDescribed
          rw [List.map_cons, id_of_key (fieldNameless inner rfl) firstDescribed,
            inductionHypothesis othersNameless othersFound restDescribed]
          rfl
      | _ => cases found

/-- The cases of an object are named by its keys if none of them has an id. -/
theorem nodup_ids_of_object
    {fields : Fields Value}
    {cases : List Case}
    (nameless : ∀ field ∈ fields, ∀ inner : Fields Value,
      field.2 = .object inner → inner.has "case_id" = false)
    (distinct : fields.keys.Nodup)
    (loaded : casesOf path (.object fields) = .ok cases) :
    (cases.map Case.id).Nodup := by
  rw [casesOf, bind_eq_ok_iff] at loaded
  obtain ⟨found, listed, described⟩ := loaded
  rwa [ids_of_objectRecords nameless listed described]

end CaseFile

end Recurrence
