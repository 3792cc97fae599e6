import Componentry.Proofs.Casing
import Componentry.Proofs.Naming
import Componentry.Proofs.Outcome
import Componentry.Proofs.Template.Reader
import Componentry.Template.Prop
import Mathlib.Data.List.TakeWhile

/-!
# Names of props

The prop of an attribute has a name that a reader takes as one. Every step from the one to the other
keeps this: letter case makes letters, in every script, and dropping hyphens and colons leaves only
letters that are made capitals. Nor is there a blank in the name.

* `mem_or_isImage_of_mem_propName`: where the characters of the name come from;
* `isName_propName`: the prop of an attribute has a name;
* `not_isBlank_of_mem_propName`: the name has no blanks.
-/

namespace Componentry.Template

open Casing (IsImage isImage_of_isAlpha)
open Reader (isNameChar IsName)

/-! ### Characters of names -/

theorem isNameChar_of_isAlphanum {c : Char} (h : c.isAlphanum) : isNameChar c := by
  simp [isNameChar, h]

theorem isNameChar_of_isWordChar {c : Char} (h : isWordChar c) : isNameChar c := by
  have hascii : ∀ n < 128, inRuns wordRuns n → isNameChar (Char.ofNat n) := by decide
  by_cases hc : c.toNat < 128
  · rw [← Char.ofNat_toNat c]
    exact hascii c.toNat hc h
  · simp [isNameChar]
    omega

theorem isNameChar_of_isPropChar {c : Char} (h : isPropChar c) : isNameChar c := by
  simp only [isPropChar, Bool.or_eq_true, decide_eq_true_eq] at h
  rcases h with ((rfl | rfl) | rfl) | h
  · decide
  · decide
  · decide
  · exact isNameChar_of_isWordChar h

theorem isPropChar_of_isAlpha {c : Char} (h : c.isAlpha) : isPropChar c :=
  Casing.of_isAlpha (P := (isPropChar ·)) (by decide) h

/-- What letter case makes is a character of names. -/
theorem isNameChar_of_isImage {c : Char} (h : IsImage c) : isNameChar c := by
  have hascii : ∀ n < 128, IsImage (Char.ofNat n) → isNameChar (Char.ofNat n) := by decide
  by_cases hc : c.toNat < 128
  · rw [← Char.ofNat_toNat c] at h ⊢
    exact hascii c.toNat hc h
  · simp [isNameChar]
    omega

/-! ### Blanks -/

/-- The code points of the blanks. -/
def blankPoints : List Nat := blankRuns.flatMap fun run => List.range' run.1 (run.2 + 1 - run.1)

theorem mem_range'_of_inRuns {runs : List (Nat × Nat)} {n : Nat} (h : inRuns runs n) :
    n ∈ runs.flatMap fun run => List.range' run.1 (run.2 + 1 - run.1) := by
  induction runs with
  | nil => cases h
  | cons run runs ih =>
    rw [inRuns] at h
    split at h
    · cases h
    next hfirst =>
      rw [List.flatMap_cons, List.mem_append, List.mem_range'_1]
      rcases (Bool.or_eq_true _ _).mp h with hlast | h
      · have hlast := of_decide_eq_true hlast
        exact .inl (by omega)
      · exact .inr (ih h)

/-- What holds of no blank is checked by code point. -/
theorem not_isBlank_of {P : Char → Prop} (hall : ∀ n ∈ blankPoints, ¬ P (Char.ofNat n)) {c : Char}
    (h : P c) : ¬ isBlank c := by
  intro hblank
  have hpoint := hall c.toNat (mem_range'_of_inRuns hblank)
  rw [Char.ofNat_toNat] at hpoint
  exact hpoint h

/-- No blank can stand in the name of an attribute that has a prop. -/
theorem not_isBlank_of_isPropChar {c : Char} (h : isPropChar c) : ¬ isBlank c :=
  not_isBlank_of (P := (isPropChar ·)) (by decide +kernel) h

/-- Letter case makes no blank. -/
theorem not_isBlank_of_isImage {c : Char} (h : IsImage c) : ¬ isBlank c :=
  not_isBlank_of (by decide +kernel) h

/-! ### Names of props -/

theorem mem_or_isImage_of_mem_lower {t : Text} {c : Char} (h : c ∈ t.lower) :
    c ∈ t ∨ IsImage c :=
  Casing.mem_or_isImage_of_mem_lowerAfter h

theorem isImage_toUpper {c : Char} (h : c.isAlpha) : IsImage c.toUpper :=
  isImage_of_isAlpha (by rwa [Char.isAlpha_toUpper_eq_isAlpha])

theorem mem_or_isImage_of_mem_camelCase {t : Text} {d : Char} (h : d ∈ Naming.camelCase t) :
    d ∈ t ∨ IsImage d := by
  fun_induction Naming.camelCase t with
  | case1 c t hlower ih =>
    -- the hyphen is dropped, and the letter after it is made a capital
    rcases List.mem_cons.1 h with rfl | h
    · exact .inr (isImage_toUpper (by simp [Char.isAlpha, hlower]))
    · exact (ih h).imp_left fun hd => List.mem_cons_of_mem _ (List.mem_cons_of_mem _ hd)
  | case2 c t _ ih =>
    rcases List.mem_cons.1 h with rfl | h
    · exact .inl List.mem_cons_self
    · exact (ih h).imp_left (List.mem_cons_of_mem _)
  | case3 c t _ ih =>
    rcases List.mem_cons.1 h with rfl | h
    · exact .inl List.mem_cons_self
    · exact (ih h).imp_left (List.mem_cons_of_mem _)
  | case4 => cases h

theorem mem_or_isImage_of_mem_joinHumps {t : Text} {d : Char} (h : d ∈ joinHumps t) :
    d ∈ t ∨ IsImage d := by
  fun_induction joinHumps t with
  | case1 mark c t hmark ih =>
    rw [Bool.and_eq_true] at hmark
    rcases List.mem_cons.1 h with rfl | h
    · exact .inr (isImage_toUpper hmark.2)
    · exact (ih h).imp_left fun hd => List.mem_cons_of_mem _ (List.mem_cons_of_mem _ hd)
  | case2 mark c t _ ih =>
    rcases List.mem_cons.1 h with rfl | h
    · exact .inl List.mem_cons_self
    · exact (ih h).imp_left (List.mem_cons_of_mem _)
  | case3 => exact .inl h

theorem mem_or_isImage_of_eventProp? {name prop : Text} (h : eventProp? name = some prop) {d : Char}
    (hd : d ∈ prop) : d ∈ name ∨ IsImage d := by
  rw [eventProp?] at h
  split at h
  next hlookup =>
    -- the table has letters only
    have hall : ∀ row ∈ renamedEvents, row.2.all Char.isAlpha := by decide +kernel
    obtain rfl := Option.some.inj h
    have hletters := hall _ (List.mem_of_lookup_eq_some hlookup)
    exact .inr (isImage_of_isAlpha (List.all_eq_true.1 hletters d hd))
  · split at h
    next first second c rest heq =>
      have hlower : ∀ d ∈ c :: rest, d ∈ name ∨ IsImage d := fun d hd =>
        mem_or_isImage_of_mem_lower
          (heq ▸ List.mem_cons_of_mem _ (List.mem_cons_of_mem _ hd))
      have hlead : "on".toList.all Char.isAlpha := by decide
      obtain rfl := Option.some.inj h
      rw [List.mem_append, List.mem_append] at hd
      rcases hd with (hd | hd) | hd
      · exact .inr (isImage_of_isAlpha (List.all_eq_true.1 hlead d hd))
      · -- a capital may be several characters
        rcases Casing.eq_or_isImage_of_mem_upperChar hd with rfl | himage
        · exact hlower d List.mem_cons_self
        · exact .inr himage
      · exact hlower d (List.mem_cons_of_mem _ hd)
    · cases h

/-- The name of a prop has the characters of the attribute's, and such as letter case makes. -/
theorem mem_or_isImage_of_mem_propName {name : Text} {d : Char} (h : d ∈ propName name) :
    d ∈ name ∨ IsImage d := by
  have hlower : ∀ {d}, d ∈ name.lower ∨ IsImage d → d ∈ name ∨ IsImage d :=
    fun hd => hd.elim mem_or_isImage_of_mem_lower .inr
  rw [propName] at h
  split at h
  next hlookup =>
    have hall : ∀ row ∈ renamedProps, row.2.all Char.isAlpha := by decide +kernel
    have hletters := hall _ (List.mem_of_lookup_eq_some hlookup)
    exact .inr (isImage_of_isAlpha (List.all_eq_true.1 hletters d h))
  · split at h
    · cases hevent : eventProp? name.lower with
      | none =>
        rw [hevent] at h
        exact hlower (.inl h)
      | some prop =>
        rw [hevent] at h
        exact hlower (mem_or_isImage_of_eventProp? hevent h)
    · split at h
      · exact hlower (.inl h)
      · exact hlower ((mem_or_isImage_of_mem_joinHumps h).elim mem_or_isImage_of_mem_camelCase .inr)

theorem lower_ne_nil {t : Text} (h : t ≠ []) : t.lower ≠ [] := by
  obtain ⟨c, t, rfl⟩ := List.exists_cons_of_ne_nil h
  rw [Text.lower, Casing.lowerAfter]
  exact List.append_ne_nil_of_left_ne_nil (Casing.lowerChar_ne_nil _ _ _) _

theorem camelCase_ne_nil {t : Text} (h : t ≠ []) : Naming.camelCase t ≠ [] := by
  fun_cases Naming.camelCase t with
  | case4 => exact absurd rfl h
  | _ => exact List.cons_ne_nil _ _

theorem joinHumps_ne_nil {t : Text} (h : t ≠ []) : joinHumps t ≠ [] := by
  fun_cases joinHumps t with
  | case3 => exact h
  | _ => exact List.cons_ne_nil _ _

theorem ne_nil_of_eventProp? {name prop : Text} (h : eventProp? name = some prop) : prop ≠ [] := by
  rw [eventProp?] at h
  split at h
  next hlookup =>
    have hall : ∀ row ∈ renamedEvents, row.2 ≠ [] := by decide +kernel
    obtain rfl := Option.some.inj h
    exact hall _ (List.mem_of_lookup_eq_some hlookup)
  · split at h
    · obtain rfl := Option.some.inj h
      simp
    · cases h

theorem propName_ne_nil {name : Text} (h : name ≠ []) : propName name ≠ [] := by
  have hlower := lower_ne_nil h
  rw [propName]
  split
  next hlookup =>
    have hall : ∀ row ∈ renamedProps, row.2 ≠ [] := by decide +kernel
    exact hall _ (List.mem_of_lookup_eq_some hlookup)
  · split
    · cases hevent : eventProp? name.lower with
      | none => exact hlower
      | some prop => exact ne_nil_of_eventProp? hevent
    · split
      · exact hlower
      · exact joinHumps_ne_nil (camelCase_ne_nil hlower)

/-- An attribute that has a prop has word characters and marks only, unless a line feed ends its
name. -/
theorem isPropChar_of_hasProp {name : Text} (h : hasProp name) (hline : '\n' ∉ name) :
    ∀ c ∈ name, isPropChar c := by
  cases name with
  | nil => cases h
  | cons c rest =>
    rw [List.mem_cons, not_or] at hline
    simp only [hasProp, Bool.and_eq_true, Bool.or_eq_true, decide_eq_true_eq] at h
    obtain ⟨hc, hrest⟩ := h
    have hfirst : isPropChar c := by
      rcases hc with hc | rfl
      · exact isPropChar_of_isAlpha hc
      · decide
    -- a line feed at the end is the only other way to have a prop
    have hall : ∀ d ∈ rest, isPropChar d := by
      rcases hrest with hrest | hrest
      · exact List.dropWhile_eq_nil_iff.1 hrest
      · exact absurd (List.dropWhile_subset _ (hrest ▸ List.mem_singleton_self '\n')) hline.2
    exact List.forall_mem_cons.2 ⟨hfirst, hall⟩

theorem ne_nil_of_hasProp {name : Text} (h : hasProp name) : name ≠ [] := by
  rintro rfl
  cases h

/-- The prop of an attribute has a name. -/
theorem isName_propName {name : Text} (h : hasProp name) (hline : '\n' ∉ name) :
    IsName (propName name) := by
  refine ⟨propName_ne_nil (ne_nil_of_hasProp h), fun c hc => ?_⟩
  rcases mem_or_isImage_of_mem_propName hc with hmem | himage
  · exact isNameChar_of_isPropChar (isPropChar_of_hasProp h hline c hmem)
  · exact isNameChar_of_isImage himage

/-- The name of a prop has no blanks. -/
theorem not_isBlank_of_mem_propName {name : Text} (h : hasProp name) (hline : '\n' ∉ name) :
    ∀ c ∈ propName name, ¬ isBlank c := by
  intro c hc
  rcases mem_or_isImage_of_mem_propName hc with hmem | himage
  · exact not_isBlank_of_isPropChar (isPropChar_of_hasProp h hline c hmem)
  · exact not_isBlank_of_isImage himage

end Componentry.Template
