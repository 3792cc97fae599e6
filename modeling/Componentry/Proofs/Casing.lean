import Componentry.Proofs.Outcome
import Componentry.Proofs.Text
import Componentry.Text.Casing

/-!
# Letter case

A text in lower case is its own lower case. The characters that lower case makes are small: no row
of the table maps them further, and no context changes them. What letter case makes of a character
is a letter of ASCII, or lies beyond ASCII and is no blank.

* `Casing.exists_row_of_find?`: where a code point that a case table maps lies in the table;
* `Text.lower_lower`: lower case is made once only;
* `Casing.mem_or_isImage_of_mem_lowerAfter`: a text in lower case has its own characters, and such
  as letter case makes;
* `Text.mem_spellings_of_lower`: the texts with a given lower case, for words of common letters.
-/

namespace Componentry

namespace Casing

/-- What a case table maps lies in one of its rows, and the image as far from it as the row says. -/
theorem exists_row_of_find? {rows : List (Nat × Nat × Nat × Int)} {n m : Nat}
    (h : find? rows n = some m) :
    ∃ first last step offset, (first, last, step, offset) ∈ rows ∧ first ≤ n ∧ n ≤ last ∧
      (n - first) % step = 0 ∧ m = ((n : Int) + offset).toNat := by
  induction rows with
  | nil => cases h
  | cons row rows ih =>
    obtain ⟨first, last, step, offset⟩ := row
    rw [find?] at h
    split at h
    · cases h
    next hfirst =>
      split at h
      · obtain ⟨first, last, step, offset, hmem, hrow⟩ := ih h
        exact ⟨first, last, step, offset, List.mem_cons_of_mem _ hmem, hrow⟩
      next hlast =>
        split at h
        next hstep =>
          exact ⟨first, last, step, offset, List.mem_cons_self, Nat.not_lt.1 hfirst,
            Nat.not_lt.1 hlast, hstep, (Option.some.inj h).symm⟩
        · cases h

/-- A case table maps none of the code points from `low` to `high` that are `step` apart. -/
def skips (low high step : Nat) : List (Nat × Nat × Nat × Int) → Bool
  | [] => true
  | (first, last, apart, _) :: rows =>
    if high < first then true
    else if last < low then skips low high step rows
    else apart = 2 && (step = 2 || low = high) && (low + first) % 2 = 1 &&
      skips low high step rows

theorem find?_eq_none_of_skips {rows : List (Nat × Nat × Nat × Int)} {low high step n : Nat}
    (h : skips low high step rows) (hlow : low ≤ n) (hhigh : n ≤ high)
    (hstep : (n - low) % step = 0) : find? rows n = none := by
  induction rows with
  | nil => rfl
  | cons row rows ih =>
    obtain ⟨first, last, apart, offset⟩ := row
    rw [skips] at h
    rw [find?]
    split at h
    next hfirst => exact if_pos (Nat.lt_of_le_of_lt hhigh hfirst)
    next hfirst =>
      split at h
      next hlast =>
        -- the row lies below all of them
        rw [if_pos (Nat.lt_of_lt_of_le hlast hlow), ih h, ite_self]
      next hlast =>
        -- the row has every second code point, and they are the others
        simp only [Bool.and_eq_true, Bool.or_eq_true, decide_eq_true_eq] at h
        obtain ⟨⟨⟨rfl, heven⟩, hodd⟩, hrest⟩ := h
        split
        · rfl
        next hbelow =>
          have hne : (n - first) % 2 ≠ 0 := by
            rcases heven with rfl | rfl <;> omega
          rw [ih hrest, if_neg hne, ite_self]

/-- The code point of the capital I with a dot, which becomes two characters. -/
def dottedCapital : Nat := 0x130

/-- What a row maps to is in lower case. -/
def MapsToLower (row : Nat × Nat × Nat × Int) : Prop :=
  0 ≤ row.1 + row.2.2.2 ∧
    skips (row.1 + row.2.2.2).toNat (row.2.1 + row.2.2.2).toNat row.2.2.1 lowerRows ∧
    (row.2.1 + row.2.2.2 < dottedCapital ∨ dottedCapital < row.1 + row.2.2.2)
  deriving Decidable

theorem mapsToLower_lowerRows : ∀ row ∈ lowerRows, MapsToLower row := by
  decide +kernel

/-- A character that lower case leaves as it is, wherever it stands. -/
def IsSmall (c : Char) : Prop := ∀ before after, lowerChar before c after = [c]

theorem isSmall_of_find? {c : Char} (hdotted : c ≠ 'İ') (h : find? lowerRows c.toNat = none) :
    IsSmall c := by
  intro before after
  have hsigma : c ≠ 'Σ' := by
    rintro rfl
    exact absurd h (by decide)
  rw [lowerChar, if_neg hdotted, if_neg hsigma, h]

theorem toNat_ofNat {n : Nat} (h : n.isValidChar) : (Char.ofNat n).toNat = n := by
  rw [Char.ofNat, dif_pos h]
  rfl

theorem isSmall_ofNat {n m : Nat} (h : find? lowerRows n = some m) : IsSmall (Char.ofNat m) := by
  obtain ⟨first, last, step, offset, hrow, hfirst, hlast, hstep, rfl⟩ := exists_row_of_find? h
  obtain ⟨hnonneg, hskips, hdotted⟩ := mapsToLower_lowerRows _ hrow
  dsimp only at hnonneg hskips hdotted
  by_cases hvalid : ((n : Int) + offset).toNat.isValidChar
  · have htoNat := toNat_ofNat hvalid
    refine isSmall_of_find? (fun heq => ?_) ?_
    · have hpoint : ((n : Int) + offset).toNat = dottedCapital := by
        rw [← htoNat, heq]
        rfl
      rw [dottedCapital] at hpoint hdotted
      omega
    · rw [htoNat]
      refine find?_eq_none_of_skips hskips (by omega) (by omega) ?_
      rw [show ((n : Int) + offset).toNat - ((first : Int) + offset).toNat = n - first by omega]
      exact hstep
  · rw [Char.ofNat, dif_neg hvalid]
    exact isSmall_of_find? (by decide) (by decide)

theorem isSmall_of_mem_lowerChar {before after : Text} {c d : Char}
    (h : d ∈ lowerChar before c after) : IsSmall d := by
  rw [lowerChar] at h
  split at h
  · -- an i and a dot above
    rcases List.mem_cons.1 h with rfl | h
    · exact isSmall_of_find? (by decide) (by decide)
    · obtain rfl := List.mem_singleton.1 h
      exact isSmall_of_find? (by decide) (by decide)
  next hdotted =>
    split at h
    · split at h
      all_goals
        obtain rfl := List.mem_singleton.1 h
        exact isSmall_of_find? (by decide) (by decide)
    · split at h
      next hfind =>
        obtain rfl := List.mem_singleton.1 h
        exact isSmall_ofNat hfind
      next hfind =>
        obtain rfl := List.mem_singleton.1 h
        exact isSmall_of_find? hdotted hfind

theorem isSmall_of_mem_lowerAfter {before t : Text} :
    ∀ d ∈ lowerAfter before t, IsSmall d := by
  induction t generalizing before with
  | nil => exact List.forall_mem_nil _
  | cons c t ih =>
    rw [lowerAfter, List.forall_mem_append]
    exact ⟨fun _ => isSmall_of_mem_lowerChar, ih⟩

theorem lowerAfter_eq_self {before t : Text} (h : ∀ c ∈ t, IsSmall c) :
    lowerAfter before t = t := by
  induction t generalizing before with
  | nil => rfl
  | cons c t ih =>
    obtain ⟨hc, ht⟩ := List.forall_mem_cons.1 h
    rw [lowerAfter, hc, ih ht]
    rfl

/-! ### Images -/

/-- Where the characters that letter case makes of others lie: among the letters of ASCII, and
beyond ASCII between the blanks. -/
def imageRuns : List (Nat × Nat) := [
  (0x41, 0x5A), (0x61, 0x7A), (0x86, 0x9F), (0xA1, 0x167F), (0x1681, 0x1FFF), (0x200B, 0x2027),
  (0x202A, 0x202E), (0x2030, 0x205E), (0x2060, 0x2FFF), (0x3001, 0xD7FF), (0xE000, 0x10FFFF)]

/-- A character lies where those that letter case makes of others lie. -/
def IsImage (c : Char) : Prop := ∃ run ∈ imageRuns, run.1 ≤ c.toNat ∧ c.toNat ≤ run.2

instance (c : Char) : Decidable (IsImage c) :=
  inferInstanceAs (Decidable (∃ run ∈ imageRuns, run.1 ≤ c.toNat ∧ c.toNat ≤ run.2))

/-- What holds of all letters of ASCII is checked by code point. -/
theorem of_isAlpha {P : Char → Prop} (hall : ∀ n < 128, (Char.ofNat n).isAlpha → P (Char.ofNat n))
    {c : Char} (h : c.isAlpha) : P c := by
  have hc := hall c.toNat (Text.toNat_of_isAlphanum (Bool.or_eq_true_iff.2 (.inl h))).2
  rw [Char.ofNat_toNat] at hc
  exact hc h

theorem isImage_of_isAlpha {c : Char} (h : c.isAlpha) : IsImage c := of_isAlpha (by decide) h

theorem isImage_ofNat {n : Nat} (h : ∃ run ∈ imageRuns, run.1 ≤ n ∧ n ≤ run.2) :
    IsImage (Char.ofNat n) := by
  have hvalid : ∀ run ∈ imageRuns, run.2 < 0xD800 ∨ 0xDFFF < run.1 ∧ run.2 < 0x110000 := by
    decide
  obtain ⟨run, hrun, hfirst, hlast⟩ := h
  have hrange := hvalid run hrun
  rw [IsImage, toNat_ofNat (show n.isValidChar by rw [Nat.isValidChar]; omega)]
  exact ⟨run, hrun, hfirst, hlast⟩

/-- A row of a case table maps everything to one of the runs. -/
def MapsToImages (row : Nat × Nat × Nat × Int) : Prop :=
  ∃ run ∈ imageRuns, (run.1 : Int) ≤ row.1 + row.2.2.2 ∧ row.2.1 + row.2.2.2 ≤ (run.2 : Int)
  deriving Decidable

theorem isImage_of_find? {rows : List (Nat × Nat × Nat × Int)}
    (hrows : ∀ row ∈ rows, MapsToImages row) {n m : Nat} (h : find? rows n = some m) :
    IsImage (Char.ofNat m) := by
  obtain ⟨first, last, step, offset, hrow, hfirst, hlast, -, rfl⟩ := exists_row_of_find? h
  -- the image lies between those of the ends of the row
  obtain ⟨run, hrun, hlow, hhigh⟩ := hrows _ hrow
  refine isImage_ofNat ⟨run, hrun, ?_, ?_⟩
  all_goals
    dsimp only at hlow hhigh
    omega

theorem mapsToImages_lowerRows : ∀ row ∈ lowerRows, MapsToImages row := by
  decide +kernel

theorem mapsToImages_upperRows : ∀ row ∈ upperRows, MapsToImages row := by
  decide +kernel

theorem eq_or_isImage_of_mem_lowerChar {before after : Text} {c d : Char}
    (h : d ∈ lowerChar before c after) : d = c ∨ IsImage d := by
  rw [lowerChar] at h
  split at h
  · -- an i and a dot above
    rcases List.mem_cons.1 h with rfl | h
    · exact .inr (by decide)
    · obtain rfl := List.mem_singleton.1 h
      exact .inr (by decide)
  · split at h
    · -- both small letters of sigma are images
      split at h
      all_goals
        obtain rfl := List.mem_singleton.1 h
        exact .inr (by decide)
    · split at h
      next hfind =>
        obtain rfl := List.mem_singleton.1 h
        exact .inr (isImage_of_find? mapsToImages_lowerRows hfind)
      next => exact .inl (List.mem_singleton.1 h)

theorem eq_or_isImage_of_mem_upperChar {c d : Char} (h : d ∈ upperChar c) :
    d = c ∨ IsImage d := by
  rw [upperChar] at h
  split at h
  next hfind =>
    obtain rfl := List.mem_singleton.1 h
    exact .inr (isImage_of_find? mapsToImages_upperRows hfind)
  next =>
    split at h
    next points hlookup =>
      -- the character has become several
      have hall : ∀ row ∈ upperExpansions, ∀ n ∈ row.2, IsImage (Char.ofNat n) := by
        decide
      obtain ⟨n, hn, rfl⟩ := List.mem_map.1 h
      exact .inr (hall _ (List.mem_of_lookup_eq_some hlookup) n hn)
    next => exact .inl (List.mem_singleton.1 h)

/-- A text in lower case has its own characters, and such as letter case makes. -/
theorem mem_or_isImage_of_mem_lowerAfter {before t : Text} {d : Char}
    (h : d ∈ lowerAfter before t) : d ∈ t ∨ IsImage d := by
  induction t generalizing before with
  | nil => cases h
  | cons c t ih =>
    rw [lowerAfter, List.mem_append] at h
    rcases h with h | h
    · refine (eq_or_isImage_of_mem_lowerChar h).imp_left ?_
      rintro rfl
      exact List.mem_cons_self
    · exact (ih h).imp_left (List.mem_cons_of_mem c)

theorem lowerChar_ne_nil (before : Text) (c : Char) (after : Text) :
    lowerChar before c after ≠ [] := by
  rw [lowerChar]
  repeat' split
  all_goals exact List.cons_ne_nil _ _

/-- The lower case of a letter of ASCII is a small letter. -/
theorem lowerChar_of_isAlpha {c : Char} (h : c.isAlpha) (before after : Text) :
    ∃ d, lowerChar before c after = [d] ∧ d.isLower := by
  have hlower : (((find? lowerRows c.toNat).map Char.ofNat).getD c).isLower :=
    of_isAlpha (P := fun c => (((find? lowerRows c.toNat).map Char.ofNat).getD c).isLower)
      (by decide) h
  have hdotted : c ≠ 'İ' := by
    rintro rfl
    cases h
  have hsigma : c ≠ 'Σ' := by
    rintro rfl
    cases h
  rw [lowerChar, if_neg hdotted, if_neg hsigma]
  cases hfind : find? lowerRows c.toNat with
  | some n =>
    rw [hfind] at hlower
    exact ⟨_, rfl, hlower⟩
  | none =>
    rw [hfind] at hlower
    exact ⟨_, rfl, hlower⟩

/-! ### Spellings -/

/-- No character but this one and its capital has it in its lower case. -/
def IsCommon (d : Char) : Prop :=
  ∀ c before after, d ∈ lowerChar before c after → c = d ∨ c = d.toUpper

/-- The row with the capitals of ASCII. -/
def asciiRow : Nat × Nat × Nat × Int := (0x41, 0x5A, 1, 32)

/-- A row maps nothing to the code point `n`. -/
def Misses (n : Nat) (row : Nat × Nat × Nat × Int) : Prop :=
  (n : Int) < row.1 + row.2.2.2 ∨ row.2.1 + row.2.2.2 < (n : Int)
  deriving Decidable

theorem toUpper_ofNat_of_capital :
    ∀ n ∈ List.range' 0x41 26, (Char.ofNat (n + 32)).toUpper = Char.ofNat n := by
  decide

/-- The code points in lower case that come from no row of the table: those of the capital I with a
dot and of the two forms of sigma. Zero stands for what is no code point. -/
def otherImages : List Nat := [0x69, 0x307, 0x3C2, 0x3C3, 0]

/-- A row that maps nothing to `d` maps no character in its range to it. Zero stands for an image
that is no code point. -/
theorem ne_image_of_misses {c d : Char} {first last step : Nat} {offset : Int}
    (hmisses : Misses d.toNat (first, last, step, offset)) (hfirst : first ≤ c.toNat)
    (hlast : c.toNat ≤ last) (hnull : d ≠ Char.ofNat 0) :
    d ≠ Char.ofNat ((c.toNat : Int) + offset).toNat := by
  rintro rfl
  by_cases hvalid : ((c.toNat : Int) + offset).toNat.isValidChar
  · have hne : ((c.toNat : Int) + offset).toNat ≠ 0 := by
      intro hzero
      rw [hzero] at hnull
      exact hnull rfl
    rw [toNat_ofNat hvalid, Misses] at hmisses
    dsimp only at hmisses
    omega
  · rw [Char.ofNat, dif_neg hvalid] at hnull
    exact hnull rfl

theorem isCommon_of_misses {d : Char}
    (hrows : ∀ row ∈ lowerRows, row = asciiRow ∨ Misses d.toNat row)
    (hother : d.toNat ∉ otherImages) : IsCommon d := by
  intro c before after hd
  have hapart : ∀ e : Char, e.toNat ∈ otherImages → d ≠ e := by
    rintro e he rfl
    exact hother he
  have hi : d ≠ 'i' := hapart _ (by decide)
  have hdot : d ≠ Char.ofNat 0x307 := hapart _ (by decide)
  have hfinal : d ≠ 'ς' := hapart _ (by decide)
  have hsigma : d ≠ 'σ' := hapart _ (by decide)
  have hnull : d ≠ Char.ofNat 0 := hapart _ (by decide)
  -- the dotted capital and the capital sigma are no rows of the table
  rw [lowerChar] at hd
  split at hd
  · simp [hi, hdot] at hd
  · split at hd
    · split at hd <;> simp [hfinal, hsigma] at hd
    · split at hd
      next m hm =>
        obtain rfl := List.mem_singleton.1 hd
        obtain ⟨first, last, step, offset, hrow, hfirst, hlast, -, rfl⟩ := exists_row_of_find? hm
        rcases hrows _ hrow with hascii | hmisses
        · obtain ⟨rfl, rfl, rfl, rfl⟩ : first = 0x41 ∧ last = 0x5A ∧ step = 1 ∧ offset = 32 := by
            simpa [asciiRow] using hascii
          have hcapital := toUpper_ofNat_of_capital c.toNat
            (List.mem_range'_1.2 ⟨hfirst, by omega⟩)
          rw [Char.ofNat_toNat] at hcapital
          exact .inr hcapital.symm
        · exact absurd rfl (ne_image_of_misses hmisses hfirst hlast hnull)
      next => exact .inl (List.mem_singleton.1 hd).symm

/-- The letters of the words for false, and the digit zero. -/
def commonLetters : Text := "0aeflnos"

theorem isCommon_of_mem_commonLetters {d : Char} (hd : d ∈ commonLetters) : IsCommon d := by
  -- the letters are checked by code point
  have hrows : ∀ row ∈ lowerRows, row = asciiRow ∨
      ∀ n ∈ commonLetters.map Char.toNat, Misses n row := by decide +kernel
  have hother : ∀ n ∈ commonLetters.map Char.toNat, n ∉ otherImages := by decide
  have hpoint : d.toNat ∈ commonLetters.map Char.toNat := List.mem_map_of_mem hd
  exact isCommon_of_misses (fun row hrow => (hrows row hrow).imp_right fun h => h _ hpoint)
    (hother _ hpoint)

/-- The words that are spelled with the letters of a word or their capitals. -/
def spellings : Text → List Text
  | [] => [[]]
  | d :: word => (spellings word).flatMap fun t => [d :: t, d.toUpper :: t]

theorem mem_spellings_cons {c d : Char} {t word : Text} (hc : c = d ∨ c = d.toUpper)
    (ht : t ∈ spellings word) : c :: t ∈ spellings (d :: word) := by
  refine List.mem_flatMap.2 ⟨t, ht, ?_⟩
  rcases hc with rfl | rfl <;> simp

/-- The lower case of a character is another one, with the one exception of the capital I with a
dot. -/
theorem exists_lowerChar_eq {c : Char} (h : c ≠ 'İ') (before after : Text) :
    ∃ d, lowerChar before c after = [d] := by
  rw [lowerChar, if_neg h]
  split
  · split <;> exact ⟨_, rfl⟩
  · split <;> exact ⟨_, rfl⟩

theorem mem_spellings_of_lowerAfter {before t word : Text} (hword : ∀ d ∈ word, IsCommon d)
    (h : lowerAfter before t = word) : t ∈ spellings word := by
  induction t generalizing before word with
  | nil =>
    subst h
    exact List.mem_singleton_self _
  | cons c t ih =>
    subst h
    rw [lowerAfter] at hword ⊢
    -- the dotted capital becomes two characters, the first of which is common
    have hdotted : c ≠ 'İ' := by
      rintro rfl
      have hi : IsCommon 'i' := hword 'i' (by simp [lowerChar])
      rcases hi 'İ' before t (by simp [lowerChar]) with hsame | hcapital
      · exact absurd hsame (by decide)
      · exact absurd hcapital (by decide)
    obtain ⟨d, hd⟩ := exists_lowerChar_eq hdotted before t
    rw [hd] at hword ⊢
    exact mem_spellings_cons (hword d (by simp) c before t (by simp [hd]))
      (ih (fun e he => hword e (List.mem_append_right _ he)) rfl)

end Casing

namespace Text

/-- A text in lower case is its own lower case. -/
@[simp]
theorem lower_lower (t : Text) : t.lower.lower = t.lower :=
  Casing.lowerAfter_eq_self Casing.isSmall_of_mem_lowerAfter

/-- There are no capitals of ASCII in lower case. -/
theorem not_isUpper_of_mem_lower {t : Text} {c : Char} (h : c ∈ t.lower) : ¬ c.isUpper := by
  intro hupper
  have halpha : c.isAlpha := Bool.or_eq_true_iff.2 (.inl hupper)
  obtain ⟨d, hd, hlower⟩ := Casing.lowerChar_of_isAlpha halpha [] []
  -- the letter is small already
  rw [Casing.isSmall_of_mem_lowerAfter c h [] []] at hd
  obtain rfl := List.singleton_inj.1 hd
  have hcapital := toNat_of_isUpper hupper
  have hsmall := toNat_of_isLower hlower
  omega

/-- A text is a spelling of its lower case, if that is a word of common letters. -/
theorem mem_spellings_of_lower {t : Text} (h : ∀ d ∈ t.lower, Casing.IsCommon d) :
    t ∈ Casing.spellings t.lower :=
  Casing.mem_spellings_of_lowerAfter h rfl

end Text

end Componentry
