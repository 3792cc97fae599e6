import Componentry.Configuration.Cast
import Componentry.Proofs.Casing
import Componentry.Proofs.Configuration.Update

/-!
# Texts that stand for false

What is stored when a text that stands for false takes the place of a value. In the place of a truth
value every such text becomes false, and in the place of a number the digit zero becomes zero. What
is stored otherwise is a text or the characters of one, and does not count as nothing.

* `SwitchesOff`: when the stored value counts as nothing;
* `exists_stored_of_false`: what is stored.
-/

namespace Componentry.Configuration

/-- The texts that stand for false, in any case. -/
def falseSpellings : List Text := falseTexts.flatMap Casing.spellings

theorem mem_falseSpellings {t : Text} (h : t.lower ∈ falseTexts) : t ∈ falseSpellings := by
  have hletters : ∀ word ∈ falseTexts, word.all Casing.commonLetters.contains := by decide
  refine List.mem_flatMap.2 ⟨t.lower, h, Text.mem_spellings_of_lower fun d hd => ?_⟩
  apply Casing.isCommon_of_mem_commonLetters
  exact List.contains_iff_mem.1 (List.all_eq_true.1 (hletters t.lower h) d hd)

/-- There are no blanks around these texts. -/
theorem trim_of_mem_falseSpellings : ∀ t ∈ falseSpellings, Text.trim t = t := by
  decide +kernel

/-- None of these texts but the digit zero writes an integer. -/
theorem readInteger_of_mem_falseSpellings :
    ∀ t ∈ falseSpellings,
      (Numeral.readInteger t).toOption = if t = "0".toList then some 0 else none := by
  decide +kernel

/-- None of these texts but the digit zero writes a number. -/
theorem read?_of_mem_falseSpellings :
    ∀ t ∈ falseSpellings,
      Numeral.Double.read? t = if t = "0".toList then some (.finite false 0 (-1074)) else none := by
  decide +kernel

/-- A text that stands for false makes something that counts as nothing when it takes the place of
`old`. -/
def SwitchesOff (old : Json) (t : Text) : Prop :=
  match old with
  | .bool _ => True
  | .int _ => t = "0".toList
  | .float _ => t = "0".toList
  | _ => False

variable {t : Text}

theorem castToBool_of_false (h : t.lower ∈ falseTexts) :
    castToBool (.string t) = .ok (.bool false) := by
  have hdisjoint : ∀ word ∈ falseTexts, trueTexts.contains word = false := by decide
  rw [castToBool]
  · rw [Json.display, trim_of_mem_falseSpellings t (mem_falseSpellings h)]
    rw [hdisjoint _ h, List.contains_iff_mem.2 h]
    rfl
  · simp

/-- A text that stands for false is stored as a value that is there and is no section. It counts as
nothing exactly if a truth value has been replaced, or a number and the text is the digit zero. -/
theorem exists_stored_of_false (h : t.lower ∈ falseTexts) (old : Json) :
    ∃ value, stored (.string t) old = .ok value ∧ IsSettled value ∧
      (value.isNothing = true ↔ SwitchesOff old t) := by
  have hmem := mem_falseSpellings h
  have hne : t ≠ [] := by
    rintro rfl
    revert h
    decide
  cases old with
  | null => exact ⟨.string t, rfl, trivial, by simp [Json.isNothing, SwitchesOff, hne]⟩
  | bool b =>
    refine ⟨.bool false, ?_, trivial, by simp [Json.isNothing, SwitchesOff]⟩
    rw [stored, castLike, castToBool_of_false h]
  -- the only numeral among these texts is zero
  | int n =>
    have hread := readInteger_of_mem_falseSpellings t hmem
    rw [stored, castLike, castToInt, SwitchesOff]
    by_cases hzero : t = "0".toList
    · rw [if_pos hzero] at hread
      cases hinteger : Numeral.readInteger t with
      | ok m =>
        rw [hinteger] at hread
        obtain rfl : m = 0 := Option.some.inj hread
        exact ⟨.int 0, rfl, trivial, iff_of_true rfl hzero⟩
      | error error => simp [hinteger, Except.toOption] at hread
    · rw [if_neg hzero] at hread
      cases hinteger : Numeral.readInteger t with
      | ok m => simp [hinteger, Except.toOption] at hread
      | error error =>
        exact ⟨.string t, rfl, trivial, iff_of_false (by simp [Json.isNothing, hne]) hzero⟩
  | float x =>
    have hread := read?_of_mem_falseSpellings t hmem
    rw [stored, castLike, castToFloat, hread, SwitchesOff]
    by_cases hzero : t = "0".toList
    · rw [if_pos hzero]
      exact ⟨_, rfl, trivial, iff_of_true rfl hzero⟩
    · rw [if_neg hzero]
      exact ⟨.string t, rfl, trivial, iff_of_false (by simp [Json.isNothing, hne]) hzero⟩
  | string text => exact ⟨.string t, rfl, trivial, by simp [Json.isNothing, SwitchesOff, hne]⟩
  | array elements =>
    exact ⟨_, rfl, trivial, by simp [Json.isNothing, SwitchesOff, hne]⟩
  | object fields =>
    refine ⟨.string t, ?_, trivial, by simp [Json.isNothing, SwitchesOff, hne]⟩
    obtain ⟨c, rest, rfl⟩ := List.exists_cons_of_ne_nil hne
    rfl

end Componentry.Configuration
