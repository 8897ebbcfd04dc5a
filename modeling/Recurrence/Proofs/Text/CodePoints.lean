import Mathlib.Data.List.Lex
import Recurrence.Text.Wording

namespace Recurrence.Wording

/-!
# Texts by their code points

Two texts with the same code points are the same: a whole text has no half of a surrogate
pair, a broken one has.  So the order of code points is a linear order of texts.
-/

theorem codes_injective :
    Function.Injective codes := by
  have apart (content : String) (codes : List Nat) (isBroken : codes.any isHalf = true) :
      content.toList.map Char.toNat ≠ codes := by
    rintro rfl
    rw [any_isHalf_toNat] at isBroken
    cases isBroken
  intro first second same
  cases first with
  | whole content =>
      cases second with
      | whole other =>
          have sameCharacters : content.toList = other.toList :=
            List.map_injective_iff.mpr (fun _ _ => Char.toNat_inj.mp) same
          rw [String.toList_inj.mp sameCharacters]
      | broken codes isBroken => exact (apart content codes isBroken same).elim
  | broken codes isBroken =>
      cases second with
      | whole other => exact (apart other codes isBroken same.symm).elim
      | broken others othersBroken =>
          cases same
          rfl

instance : LE Wording := ⟨fun first second => first.codes ≤ second.codes⟩

instance : LinearOrder Wording where
  le_refl text := le_refl text.codes
  le_trans _ _ _ earlier later := le_trans (α := List Nat) earlier later
  le_antisymm _ _ atMost atLeast := codes_injective (le_antisymm atMost atLeast)
  le_total first second := le_total first.codes second.codes
  lt_iff_le_not_ge first second := lt_iff_le_not_ge (a := first.codes) (b := second.codes)
  toDecidableLE first second := inferInstanceAs (Decidable (first.codes ≤ second.codes))
  toDecidableEq := inferInstance
  toDecidableLT := inferInstance

end Recurrence.Wording
