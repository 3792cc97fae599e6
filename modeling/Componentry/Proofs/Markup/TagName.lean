import Componentry.Markup.Tag
import Componentry.Proofs.Casing

/-!
# Names of elements

An element is named by its start tag, in lower case: a small letter comes first, and then whatever
does not end the name of a tag. Letter case makes no character that would end it.

* `Markup.IsTagName`: the names that elements have;
* `Markup.isTagName_of_readTag`: the name of a start tag in lower case is one.
-/

namespace Componentry

namespace Markup

open Casing (IsImage)

/-- What the name of an element looks like. -/
structure IsTagName (name : Text) : Prop where
  /-- The name is in lower case. -/
  lower : name.lower = name
  /-- It starts with a small letter. -/
  start : ∃ c ∈ name.head?, c.isLower
  /-- None of its characters ends the name of a tag. -/
  chars : ∀ c ∈ name, isTagChar c

theorem isTagChar_of_isAlpha {c : Char} (h : c.isAlpha) : isTagChar c :=
  Casing.of_isAlpha (P := (isTagChar ·)) (by decide) h

/-- What letter case makes does not end the name of a tag. -/
theorem isTagChar_of_isImage {c : Char} (h : IsImage c) : isTagChar c := by
  have hother : ∀ d, ¬ IsImage d → c ≠ d := fun d hd heq => hd (heq ▸ h)
  simp [isTagChar, hother '\t' (by decide), hother '\n' (by decide), hother '\r' (by decide),
    hother '\x0c' (by decide), hother ' ' (by decide), hother '/' (by decide),
    hother '>' (by decide), hother '\x00' (by decide)]

/-- A name that starts with a letter names an element once it is in lower case. -/
theorem isTagName_lower {c : Char} {rest : Text} (hc : c.isAlpha)
    (hrest : ∀ d ∈ rest, isTagChar d) : IsTagName (Text.lower (c :: rest)) := by
  refine ⟨Text.lower_lower _, ?_, fun d hd => ?_⟩
  · obtain ⟨d, hd, hlower⟩ := Casing.lowerChar_of_isAlpha hc [] rest
    refine ⟨d, ?_, hlower⟩
    rw [Text.lower, Casing.lowerAfter, hd]
    rfl
  · rcases Casing.mem_or_isImage_of_mem_lowerAfter hd with hmem | himage
    · rcases List.mem_cons.1 hmem with rfl | hmem
      · exact isTagChar_of_isAlpha hc
      · exact hrest d hmem
    · exact isTagChar_of_isImage himage

theorem isTagName_of_tagName? {t name rest : Text} (h : tagName? t = some (name, rest)) :
    IsTagName name.lower := by
  cases t with
  | nil => cases h
  | cons c t =>
    rw [tagName?] at h
    split at h
    next hc =>
      cases h
      exact isTagName_lower hc fun d hd => List.all_eq_true.1 (List.all_takeWhile) d hd
    · cases h

/-- The name of a start tag in lower case names an element. -/
theorem isTagName_of_readTag {t name rest : Text} {attributes : List (Text × Text)} {closed : Bool}
    (h : readTag t = .tag name attributes closed rest) : IsTagName name.lower := by
  rw [readTag] at h
  split at h
  · cases h
  next hname =>
    dsimp only at h
    split at h
    · cases h
      exact isTagName_of_tagName? hname
    · cases h
      exact isTagName_of_tagName? hname
    · cases h
    · split at h <;> cases h

end Markup

end Componentry
