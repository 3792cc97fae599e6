import Componentry.Proofs.Casing
import Componentry.Proofs.Naming
import Componentry.Style.Declarations

/-!
# Names of properties

A custom property starts with two hyphens and keeps its name. Every other property gets a name with
humps, in which no hyphen precedes a small letter of ASCII, and which does not start with two
hyphens, so that it is never the name of a custom one.

* `Declarations.propertyName_of_isCustom`: custom properties keep their names;
* `Declarations.isCustom_propertyName_iff`: no other property gets the name of a custom one;
* `Declarations.not_hyphen_small_infix_propertyName`: no hyphen precedes a small letter in the names
  of the others.
-/

namespace Componentry

/-! ### Lower case -/

/-- No image of letter case is a hyphen, so that lower case has hyphens where the text has them. -/
theorem Casing.lowerAfter_eq_hyphen_cons {before t rest : Text}
    (h : lowerAfter before t = '-' :: rest) :
    ∃ more, t = '-' :: more ∧ rest = lowerAfter ('-' :: before) more := by
  cases t with
  | nil => cases h
  | cons c t =>
    rw [lowerAfter] at h
    obtain ⟨first, others, hfirst⟩ := List.exists_cons_of_ne_nil (lowerChar_ne_nil before c t)
    have heq : first = '-' := by
      rw [hfirst] at h
      exact (List.cons.inj h).1
    obtain rfl : c = '-' := by
      have hmem : '-' ∈ lowerChar before c t := hfirst ▸ heq ▸ List.mem_cons_self
      exact ((eq_or_isImage_of_mem_lowerChar hmem).resolve_right (by decide)).symm
    have hsmall := isSmall_of_find? (c := '-') (by decide) (by decide +kernel)
    rw [hsmall before t] at h
    exact ⟨t, rfl, (List.cons.inj h).2.symm⟩

/-! ### Names -/

namespace Declarations

/-- A property starts with two hyphens, as the custom ones do. -/
def IsCustom (property : Text) : Prop := Text.startsWith property "--"

instance (property : Text) : Decidable (IsCustom property) :=
  inferInstanceAs (Decidable (_ = true))

theorem isCustom_iff {property : Text} : IsCustom property ↔ ['-', '-'] <+: property :=
  List.isPrefixOf_iff_prefix

/-- Custom properties keep their names. -/
theorem propertyName_of_isCustom {key : Text} (h : IsCustom key) : propertyName key = key :=
  if_pos h

/-- The name of any other property has humps in the place of hyphens. -/
theorem exists_camelCase_of_not_isCustom {key : Text} (h : ¬ IsCustom key) :
    ∃ name, ¬ IsCustom name ∧ propertyName key = Naming.camelCase name := by
  rw [IsCustom] at h
  rw [propertyName, if_neg h]
  split
  next rest _ => exact ⟨'m' :: 's' :: '-' :: rest, by simp [isCustom_iff], rfl⟩
  next =>
    refine ⟨Text.lower key, fun hlower => h ?_, rfl⟩
    -- lower case makes no hyphens
    obtain ⟨more, hmore⟩ := isCustom_iff.1 hlower
    obtain ⟨rest, rfl, hrest⟩ := Casing.lowerAfter_eq_hyphen_cons hmore.symm
    obtain ⟨rest, rfl, -⟩ := Casing.lowerAfter_eq_hyphen_cons hrest.symm
    exact isCustom_iff.2 (List.prefix_append ['-', '-'] rest)

/-- No other property gets the name of a custom one. -/
theorem isCustom_propertyName_iff {key : Text} : IsCustom (propertyName key) ↔ IsCustom key := by
  refine ⟨fun h => ?_, fun h => (propertyName_of_isCustom h).symm ▸ h⟩
  by_contra hkey
  obtain ⟨name, hname, heq⟩ := exists_camelCase_of_not_isCustom hkey
  rw [heq, isCustom_iff] at h
  exact hname (isCustom_iff.2 (Naming.hyphens_prefix_of_camelCase h))

/-- No hyphen precedes a small letter in the name of any other property. -/
theorem not_hyphen_small_infix_propertyName {key : Text} (h : ¬ IsCustom key) {c : Char}
    (hc : c.isLower) : ¬ ['-', c] <:+: propertyName key := by
  obtain ⟨name, -, heq⟩ := exists_camelCase_of_not_isCustom h
  rw [heq]
  exact Naming.not_hyphen_small_infix_camelCase hc name

end Declarations

end Componentry
