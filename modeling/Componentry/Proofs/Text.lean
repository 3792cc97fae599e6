import Componentry.Text.Blank
import Mathlib.Data.List.TakeWhile
import Mathlib.Logic.Function.Basic

/-!
# Texts

Where letters and digits lie, what written numbers consist of, what trimming leaves, what joined
texts contain, and what replacing a part of a text does.
-/

namespace Componentry.Text

/-! ### Letters and digits -/

theorem toNat_of_isUpper {c : Char} (h : c.isUpper) : 0x41 ≤ c.toNat ∧ c.toNat ≤ 0x5A :=
  (of_decide_eq_true h).imp UInt32.le_iff_toNat_le.1 UInt32.le_iff_toNat_le.1

theorem toNat_of_isLower {c : Char} (h : c.isLower) : 0x61 ≤ c.toNat ∧ c.toNat ≤ 0x7A := by
  obtain ⟨hlow, hhigh⟩ := Bool.and_eq_true_iff.1 h
  exact ⟨UInt32.le_iff_toNat_le.1 (of_decide_eq_true hlow),
    UInt32.le_iff_toNat_le.1 (of_decide_eq_true hhigh)⟩

/-- Letters and digits are characters of ASCII, and the digit zero is the first of them. -/
theorem toNat_of_isAlphanum {c : Char} (h : c.isAlphanum) : 0x30 ≤ c.toNat ∧ c.toNat < 0x80 := by
  rcases Bool.or_eq_true_iff.1 h with hletter | hdigit
  · rcases Bool.or_eq_true_iff.1 hletter with hupper | hlower
    · have hpoint := toNat_of_isUpper hupper
      omega
    · have hpoint := toNat_of_isLower hlower
      omega
  · have hpoint := Char.isDigit_iff_toNat.1 hdigit
    simp only [Char.reduceToNat] at hpoint
    omega

theorem not_isBlank_of_isAlphanum {c : Char} (h : c.isAlphanum) : ¬ isBlank c := by
  have hascii : ∀ n < 0x80, (Char.ofNat n).isAlphanum → ¬ isBlank (Char.ofNat n) := by decide
  rw [← Char.ofNat_toNat c] at h ⊢
  exact hascii c.toNat (toNat_of_isAlphanum (by rwa [Char.ofNat_toNat] at h)).2 h

/-! ### Written numbers -/

theorem ofNat_injective : Function.Injective ofNat := by
  intro m n h
  rw [← Nat.ofDigitChars_ten_toDigits (n := m), ← Nat.ofDigitChars_ten_toDigits (n := n)]
  exact congrArg (Nat.ofDigitChars 10 · 0) h

theorem ofNat_ne_nil (n : Nat) : ofNat n ≠ [] := Nat.toDigits_ne_nil

theorem isDigit_of_mem_ofNat {n : Nat} {c : Char} (h : c ∈ ofNat n) : c.isDigit :=
  Nat.isDigit_of_mem_toDigits (by decide) (by decide) h

/-- A number other than zero is written without a zero in front. -/
theorem head?_ofNat_ne_zero {n : Nat} (h : 0 < n) : ∀ c ∈ (ofNat n).head?, c ≠ '0' := by
  induction n using Nat.strong_induction_on with
  | h n ih =>
    rw [ofNat, Nat.toDigits_eq_if (by decide)]
    split
    next hsmall =>
      intro c hc
      cases hc
      exact (by decide : ∀ n < 10, 0 < n → Nat.digitChar n ≠ '0') n hsmall h
    next hlarge =>
      rw [List.head?_append, Option.or_of_isSome (List.isSome_head?.2 Nat.toDigits_ne_nil)]
      exact ih (n / 10) (by omega) (by omega)

theorem ofInt_ne_nil (n : Int) : ofInt n ≠ [] := by
  cases n with
  | ofNat n => exact ofNat_ne_nil n
  | negSucc n => exact List.cons_ne_nil _ _

/-- An integer is written with digits and perhaps a minus sign. -/
theorem minus_or_isDigit_of_mem_ofInt {n : Int} {c : Char} (h : c ∈ ofInt n) :
    c = '-' ∨ c.isDigit := by
  cases n with
  | ofNat n => exact .inr (isDigit_of_mem_ofNat h)
  | negSucc n => exact (List.mem_cons.1 h).imp_right isDigit_of_mem_ofNat

/-! ### Trimmed texts -/

theorem head_dropWhile {p : Char → Bool} {t rest : Text} {c : Char}
    (h : t.dropWhile p = c :: rest) : ¬ p c := by
  induction t with
  | nil => cases h
  | cons d t ih =>
    rw [List.dropWhile_cons] at h
    split at h
    · exact ih h
    · next hd =>
      cases h
      exact hd

/-- Trimming leaves nothing of a blank text, and something of any other. -/
theorem isEmpty_trim (t : Text) : t.trim.isEmpty = t.all isBlank := by
  rw [Bool.eq_iff_iff, List.isEmpty_iff, List.all_eq_true, trim, trimEnd, List.reverse_eq_nil_iff,
    List.dropWhile_eq_nil_iff]
  constructor
  · intro h
    -- a text that is not blank starts with no blank once its start is trimmed
    cases hstart : t.trimStart with
    | nil => exact List.dropWhile_eq_nil_iff.1 hstart
    | cons c rest =>
      rw [hstart] at h
      exact absurd (h c (List.mem_reverse.2 List.mem_cons_self)) (head_dropWhile hstart)
  · exact fun h c hc => h c ((List.dropWhile_suffix _).subset (List.mem_reverse.1 hc))

/-- A trimmed text starts with no blank. -/
theorem not_isBlank_of_trim_eq_cons {t rest : Text} {c : Char} (h : t.trim = c :: rest) :
    ¬ isBlank c := by
  -- trimming the end leaves the start as it is
  have hprefix : t.trim <+: t.trimStart := by
    rw [trim, trimEnd, ← List.reverse_suffix, List.reverse_reverse]
    exact List.dropWhile_suffix _
  rw [h] at hprefix
  obtain ⟨tail, htail⟩ := hprefix
  rw [trimStart, List.cons_append] at htail
  exact head_dropWhile htail.symm

/-- A trimmed text ends with no blank. -/
theorem not_isBlank_of_trim_eq_concat {t rest : Text} {c : Char} (h : t.trim = rest ++ [c]) :
    ¬ isBlank c := by
  rw [trim, trimEnd, List.reverse_eq_iff, List.reverse_append] at h
  exact head_dropWhile h

/-- Nothing is dropped from a text whose first character stays. -/
theorem dropWhile_eq_self {p : Char → Bool} {t : Text} (h : ∀ c ∈ t.head?, ¬ p c) :
    t.dropWhile p = t := by
  cases t with
  | nil => rfl
  | cons c t => exact List.dropWhile_cons_of_neg (h c rfl)

/-- Characters are taken up to the first one that is not to be taken. -/
theorem takeWhile_append_eq {p : Char → Bool} {t rest : Text} (h : ∀ c ∈ t, p c)
    (hrest : ∀ c ∈ rest.head?, ¬ p c) : (t ++ rest).takeWhile p = t := by
  rw [List.takeWhile_append_of_pos h]
  cases rest with
  | nil => exact List.append_nil t
  | cons c rest => rw [List.takeWhile_cons_of_neg (hrest c rfl), List.append_nil]

/-- Characters are dropped up to the first one that is not to be dropped. -/
theorem dropWhile_append_eq {p : Char → Bool} {t rest : Text} (h : ∀ c ∈ t, p c)
    (hrest : ∀ c ∈ rest.head?, ¬ p c) : (t ++ rest).dropWhile p = rest := by
  rw [List.dropWhile_append_of_pos h, dropWhile_eq_self hrest]

/-- A text that ends with no blank keeps its end. -/
theorem trimEnd_eq_self {t : Text} (h : ∀ c ∈ t.getLast?, ¬ isBlank c) : trimEnd t = t := by
  rw [List.getLast?_eq_head?_reverse] at h
  rw [trimEnd, dropWhile_eq_self h, List.reverse_reverse]

/-- A text that starts and ends with no blank is not changed by trimming. -/
theorem trim_eq_self {t : Text} (hfirst : ∀ c ∈ t.head?, ¬ isBlank c)
    (hlast : ∀ c ∈ t.getLast?, ¬ isBlank c) : trim t = t := by
  rw [trim, trimStart, dropWhile_eq_self hfirst, trimEnd_eq_self hlast]

/-- Trimming takes the blanks around a text that starts and ends with none. -/
theorem trim_padded {t : Text} (hfirst : ∀ c ∈ t.head?, ¬ isBlank c)
    (hlast : ∀ c ∈ t.getLast?, ¬ isBlank c) : trim (' ' :: (t ++ [' '])) = t := by
  have hblank : isBlank ' ' := by decide
  have hstart : trimStart (' ' :: (t ++ [' '])) = if t = [] then [] else t ++ [' '] := by
    rw [trimStart, List.dropWhile_cons_of_pos hblank]
    cases t with
    | nil => rfl
    | cons c t => exact dropWhile_eq_self hfirst
  have hend : trimEnd (t ++ [' ']) = trimEnd t := by
    rw [trimEnd, List.reverse_append, List.reverse_singleton, List.singleton_append,
      List.dropWhile_cons_of_pos hblank, ← trimEnd]
  rw [trim, hstart]
  split
  next hempty =>
    rw [hempty]
    rfl
  next => rw [hend, trimEnd_eq_self hlast]

theorem trim_cons_of_isBlank {c : Char} (h : isBlank c) (t : Text) : trim (c :: t) = trim t := by
  rw [trim, trimStart, List.dropWhile_cons_of_pos h]
  rfl

/-- Trimming takes nothing but blanks. -/
theorem mem_trim_of_not_isBlank {t : Text} {c : Char} (h : c ∈ t) (hc : ¬ isBlank c) :
    c ∈ trim t := by
  have hstay : ∀ {u : Text}, c ∈ u → c ∈ u.dropWhile isBlank := by
    intro u hu
    rw [← List.takeWhile_append_dropWhile (p := isBlank) (l := u), List.mem_append] at hu
    exact hu.resolve_left fun htake => hc (List.mem_takeWhile_imp htake)
  rw [trim, trimEnd, List.mem_reverse]
  exact hstay (List.mem_reverse.2 (hstay h))

theorem mem_of_mem_trim {t : Text} {c : Char} (h : c ∈ trim t) : c ∈ t := by
  rw [trim, trimEnd, List.mem_reverse] at h
  exact (List.dropWhile_subset _) (List.mem_reverse.1 (List.dropWhile_subset _ h))

/-! ### Joined texts -/

/-- Texts that are joined stand in the whole. -/
theorem infix_intercalate {part : Text} {parts : List Text} (h : part ∈ parts) (separator : Text) :
    part <:+: List.intercalate separator parts := by
  induction parts with
  | nil => cases h
  | cons first parts ih =>
    cases parts with
    | nil =>
      simp only [List.mem_singleton.1 h, List.intercalate_singleton, List.infix_refl]
    | cons second parts =>
      rw [List.intercalate_cons_cons]
      rcases List.mem_cons.1 h with rfl | h
      · rw [List.append_assoc]
        exact (List.prefix_append _ _).isInfix
      · exact List.infix_append_of_infix_right (ih h)

/-- The last of several joined texts follows a separator. -/
theorem intercalate_concat {parts : List Text} (h : parts ≠ []) (separator last : Text) :
    List.intercalate separator (parts ++ [last]) =
      List.intercalate separator parts ++ (separator ++ last) := by
  induction parts with
  | nil => exact absurd rfl h
  | cons first parts ih =>
    rcases eq_or_ne parts [] with rfl | hne
    · rw [List.singleton_append, List.intercalate_cons_cons, List.intercalate_singleton,
        List.intercalate_singleton, List.append_assoc]
    · rw [List.cons_append, List.intercalate_cons_of_ne_nil (by simp), ih hne,
        List.intercalate_cons_of_ne_nil hne, List.append_assoc (first ++ separator)]

theorem ofLines_cons_cons (line next : String) (lines : List String) :
    ofLines (line :: next :: lines) = line ++ "\n" ++ ofLines (next :: lines) :=
  List.intercalate_cons_cons

theorem splitOn_ne_nil (mark : Char) (t : Text) : splitOn mark t ≠ [] := by
  cases t with
  | nil => exact List.cons_ne_nil _ _
  | cons c t =>
    rw [splitOn]
    split
    · exact List.cons_ne_nil _ _
    · split <;> exact List.cons_ne_nil _ _

/-- A mark ends the last piece of what precedes it. -/
theorem splitOn_append (mark : Char) (t rest : Text) :
    splitOn mark (t ++ mark :: rest) = splitOn mark t ++ splitOn mark rest := by
  induction t with
  | nil =>
    obtain ⟨piece, more, hrest⟩ := List.exists_cons_of_ne_nil (splitOn_ne_nil mark rest)
    show splitOn mark (mark :: rest) = [] :: splitOn mark rest
    rw [splitOn, hrest]
    exact if_pos rfl
  | cons c t ih =>
    obtain ⟨piece, more, ht⟩ := List.exists_cons_of_ne_nil (splitOn_ne_nil mark t)
    simp only [List.cons_append, splitOn, ih, ht]
    split <;> rfl

theorem splitOn_eq_singleton {mark : Char} {t : Text} (h : mark ∉ t) : splitOn mark t = [t] := by
  induction t with
  | nil => rfl
  | cons c t ih =>
    rw [List.mem_cons, not_or] at h
    rw [splitOn, ih h.2]
    exact if_neg fun heq => h.1 heq.symm

/-- A text without the mark is the first piece of what continues it after the mark. -/
theorem splitOn_append_cons {mark : Char} {t : Text} (h : mark ∉ t) (rest : Text) :
    splitOn mark (t ++ mark :: rest) = t :: splitOn mark rest := by
  rw [splitOn_append, splitOn_eq_singleton h]
  rfl

/-- Texts without the mark that are joined by it are the pieces of the whole. -/
theorem splitOn_intercalate {mark : Char} {parts : List Text} (hne : parts ≠ [])
    (h : ∀ part ∈ parts, mark ∉ part) : splitOn mark (List.intercalate [mark] parts) = parts := by
  induction parts with
  | nil => exact absurd rfl hne
  | cons first parts ih =>
    rw [List.forall_mem_cons] at h
    cases parts with
    | nil => rw [List.intercalate_singleton, splitOn_eq_singleton h.1]
    | cons second parts =>
      rw [List.intercalate_cons_cons, List.append_assoc, List.singleton_append,
        splitOn_append_cons h.1, ih (List.cons_ne_nil _ _) h.2]

/-- The pieces of a text, joined by the mark again. -/
theorem intercalate_splitOn (mark : Char) (t : Text) :
    List.intercalate [mark] (splitOn mark t) = t := by
  induction t with
  | nil => exact List.intercalate_singleton
  | cons c t ih =>
    obtain ⟨piece, more, ht⟩ := List.exists_cons_of_ne_nil (splitOn_ne_nil mark t)
    rw [ht] at ih
    rw [splitOn, ht]
    dsimp only
    split
    next hc => rw [List.intercalate_cons_cons, ih, hc, List.nil_append, List.singleton_append]
    next =>
      rw [← ih]
      cases more <;> simp [List.intercalate_cons_cons]

/-- A text without the mark is the first piece of another one that is it, or begins with it and the
mark. -/
theorem singleton_prefix_splitOn_iff {mark : Char} {first : Text} (h : mark ∉ first) (t : Text) :
    [first] <+: splitOn mark t ↔ t = first ∨ first ++ [mark] <+: t := by
  constructor
  · rintro ⟨pieces, hpieces⟩
    have ht := intercalate_splitOn mark t
    rw [← hpieces, List.singleton_append] at ht
    cases pieces with
    | nil => exact .inl (ht.symm.trans List.intercalate_singleton)
    | cons second pieces =>
      rw [List.intercalate_cons_cons] at ht
      exact .inr ⟨_, ht⟩
  · rintro (rfl | ⟨rest, rfl⟩)
    · simp [splitOn_eq_singleton h]
    · rw [List.append_assoc, List.singleton_append, splitOn_append_cons h]
      exact ⟨splitOn mark rest, rfl⟩

theorem not_mem_of_mem_splitOn {mark : Char} {t piece : Text} (h : piece ∈ splitOn mark t) :
    mark ∉ piece := by
  induction t generalizing piece with
  | nil =>
    rw [List.mem_singleton.1 h]
    exact List.not_mem_nil
  | cons c t ih =>
    obtain ⟨first, more, hpieces⟩ := List.exists_cons_of_ne_nil (splitOn_ne_nil mark t)
    rw [hpieces, List.forall_mem_cons] at ih
    rw [splitOn, hpieces] at h
    dsimp only at h
    split at h
    · -- the mark ends an empty piece
      rcases List.mem_cons.1 h with rfl | h
      · exact List.not_mem_nil
      · rcases List.mem_cons.1 h with rfl | h
        · exact ih.1
        · exact ih.2 piece h
    next hc =>
      rcases List.mem_cons.1 h with rfl | h
      · simp [ih.1, Ne.symm hc]
      · exact ih.2 piece h

/-- Only marks are missing from the pieces of a text. -/
theorem mem_flatten_splitOn {mark c : Char} {t : Text} (h : c ∈ t) :
    c ∈ (splitOn mark t).flatten ∨ c = mark := by
  induction t with
  | nil => cases h
  | cons d t ih =>
    obtain ⟨piece, more, hpieces⟩ := List.exists_cons_of_ne_nil (splitOn_ne_nil mark t)
    rw [hpieces] at ih
    rw [splitOn, hpieces]
    dsimp only
    split
    next hd =>
      rcases List.mem_cons.1 h with rfl | h
      · exact .inr hd
      · exact ih h
    next =>
      rcases List.mem_cons.1 h with rfl | h
      · exact .inl List.mem_cons_self
      · exact (ih h).imp_left (List.mem_cons_of_mem _)

/-- A text is cut where the mark first occurs. -/
theorem cut?_eq_some_iff {mark : Char} {t before after : Text} :
    cut? mark t = some (before, after) ↔ t = before ++ mark :: after ∧ mark ∉ before := by
  induction t generalizing before with
  | nil => simp [cut?]
  | cons c t ih =>
    unfold cut?
    split
    next hc =>
      subst hc
      rcases before with _ | ⟨d, before⟩
      · simp
      · refine ⟨nofun, fun ⟨heq, hbefore⟩ => absurd ?_ hbefore⟩
        exact (List.cons.inj heq).1 ▸ List.mem_cons_self
    next hc =>
      rcases before with _ | ⟨d, before⟩
      · simp [hc]
      · rw [Option.map_eq_some_iff]
        constructor
        · rintro ⟨⟨before, after⟩, hcut, heq⟩
          cases heq
          obtain ⟨rfl, hbefore⟩ := ih.1 hcut
          exact ⟨rfl, List.not_mem_cons_of_ne_of_not_mem (Ne.symm hc) hbefore⟩
        · rintro ⟨heq, hbefore⟩
          cases heq
          exact ⟨_, ih.2 ⟨rfl, List.not_mem_of_not_mem_cons hbefore⟩, rfl⟩

/-! ### Replaced parts -/

/-- `t` with `replacement` in the place of each `part`, from left to right and without overlaps; the
first `skip` characters have already been replaced. -/
def replaceFrom (part replacement : Text) : (skip : Nat) → (t : Text) → Text
  | _, [] => []
  | skip + 1, _ :: rest => replaceFrom part replacement skip rest
  | 0, c :: rest =>
    if part.isPrefixOf (c :: rest) then
      replacement ++ replaceFrom part replacement (part.length - 1) rest
    else c :: replaceFrom part replacement 0 rest

/-- `t` with `replacement` in the place of each `part`, which is not empty. -/
def replace (part replacement t : Text) : Text := replaceFrom part replacement 0 t

theorem replace_cons_of_not_start {part : Text} {c : Char} {t : Text} (h : ¬ part <+: c :: t)
    (replacement : Text) : replace part replacement (c :: t) = c :: replace part replacement t := by
  rw [replace, replaceFrom, if_neg (by rwa [List.isPrefixOf_iff_prefix])]
  rfl

/-- Replacing one character is done character by character. -/
theorem replace_singleton (c : Char) (replacement t : Text) :
    replace [c] replacement t = t.flatMap fun d => if d = c then replacement else [d] := by
  induction t with
  | nil => rfl
  | cons d t ih =>
    have hpart : [c] <+: d :: t ↔ d = c := by rw [List.singleton_prefix_cons_iff, eq_comm]
    rw [List.flatMap_cons, ← ih]
    by_cases h : d = c
    · rw [replace, replaceFrom, if_pos (List.isPrefixOf_iff_prefix.2 (hpart.2 h)), if_pos h]
      rfl
    · rw [replace_cons_of_not_start (mt hpart.1 h), if_neg h]
      rfl

end Componentry.Text
