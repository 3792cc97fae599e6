import Componentry.Naming
import Componentry.Proofs.Text
import Mathlib

/-!
# Names

What names consist of, and how they are kept apart. Counting finds a name that is not taken, since
there are more candidates than taken names.

* `Naming.isAlphanum_of_mem_pascalCase`: the name that a label gives has letters and digits only;
* `Naming.isUpper_of_head?_pascalCase`: if it starts with a letter, that is a capital;
* `Naming.not_hyphen_small_infix_camelCase`: no hyphen precedes a small letter in a name with humps;
* `Naming.isIdentifier_identifier`: the identifier that a label gives is one;
* `Naming.unique_not_mem`: the name that is found is not taken.
-/

namespace Componentry

namespace Naming

/-! ### Characters of names -/

theorem isAlphanum_toUpper {c : Char} (h : c.isAlphanum) : c.toUpper.isAlphanum := by
  by_cases hlower : c.isLower
  · have halpha : c.toUpper.isAlpha := by simp [Char.isAlpha, hlower]
    simp [Char.isAlphanum, halpha]
  · rwa [Char.toUpper_eq_of_not_isLower hlower]

theorem isAlphanum_of_mem_finished {word w : Text} {c : Char} (h : ∀ c ∈ word, c.isAlphanum)
    (hw : w ∈ finished word) (hc : c ∈ w) : c.isAlphanum := by
  rw [finished] at hw
  split at hw
  · cases hw
  · obtain rfl := List.mem_singleton.1 hw
    exact h c (List.mem_reverse.1 hc)

theorem isAlphanum_of_mem_wordsFrom {label word w : Text} {c : Char}
    (h : ∀ c ∈ word, c.isAlphanum) (hw : w ∈ wordsFrom word label) (hc : c ∈ w) :
    c.isAlphanum := by
  induction label generalizing word with
  | nil => exact isAlphanum_of_mem_finished h hw hc
  | cons first label ih =>
    rw [wordsFrom] at hw
    split at hw
    next hfirst =>
      -- a capital may end the word before it
      split at hw
      · rcases List.mem_append.1 hw with hw | hw
        · exact isAlphanum_of_mem_finished h hw hc
        · exact ih (List.forall_mem_singleton.2 hfirst) hw
      · exact ih (List.forall_mem_cons.2 ⟨hfirst, h⟩) hw
    next =>
      rcases List.mem_append.1 hw with hw | hw
      · exact isAlphanum_of_mem_finished h hw hc
      · exact ih (List.forall_mem_nil _) hw

theorem isAlphanum_of_mem_capitalized {word : Text} {c : Char} (h : ∀ c ∈ word, c.isAlphanum)
    (hc : c ∈ capitalized word) : c.isAlphanum := by
  cases word with
  | nil => cases hc
  | cons first word =>
    rw [List.forall_mem_cons] at h
    rcases List.mem_cons.1 hc with rfl | hc
    · exact isAlphanum_toUpper h.1
    · exact h.2 c hc

/-- The name that a label gives has letters and digits only. -/
theorem isAlphanum_of_mem_pascalCase {label : Text} {c : Char} (h : c ∈ pascalCase label) :
    c.isAlphanum := by
  obtain ⟨word, hword, hc⟩ := List.mem_flatMap.1 h
  exact isAlphanum_of_mem_capitalized
    (fun c hc => isAlphanum_of_mem_wordsFrom (List.forall_mem_nil _) hword hc) hc

theorem exists_toUpper_of_head? {labelWords : List Text} {c : Char}
    (h : (labelWords.flatMap capitalized).head? = some c) : ∃ d : Char, c = d.toUpper := by
  induction labelWords with
  | nil => cases h
  | cons word labelWords ih =>
    cases word with
    | nil => exact ih h
    | cons first word => exact ⟨first, (Option.some.inj h).symm⟩

/-- The name that a label gives starts with a capital if it starts with a letter. -/
theorem isUpper_of_head?_pascalCase {label : Text} {c : Char}
    (h : (pascalCase label).head? = some c) (hletter : c.isAlpha) : c.isUpper := by
  obtain ⟨d, rfl⟩ := exists_toUpper_of_head? h
  rwa [Char.isAlpha_toUpper_eq_isAlpha, ← Char.isUpper_toUpper_eq_isAlpha] at hletter

/-! ### Humps -/

theorem isUpper_toUpper {c : Char} (h : c.isLower) : c.toUpper.isUpper := by
  rw [Char.isUpper_toUpper_eq_isAlpha, Char.isAlpha, h, Bool.or_true]

/-- A name with humps starts as the name that it comes from, unless a capital has taken the place of
a hyphen and a small letter. -/
theorem head?_camelCase (name : Text) :
    ∀ c ∈ (camelCase name).head?, name.head? = some c ∨ c.isUpper := by
  fun_cases camelCase name with
  | case1 d rest hlower =>
    intro c hc
    obtain rfl := Option.some.inj hc
    exact .inr (isUpper_toUpper hlower)
  | _ => exact fun c hc => .inl hc

/-- No hyphen precedes a small letter in a name with humps. -/
theorem not_hyphen_small_infix_camelCase {c : Char} (hc : c.isLower) (name : Text) :
    ¬ ['-', c] <:+: camelCase name := by
  fun_induction camelCase name with
  | case1 d rest hlower ih =>
    rw [List.infix_cons_iff, not_or]
    refine ⟨fun hstart => ?_, ih⟩
    -- a capital is no hyphen
    have hupper := isUpper_toUpper hlower
    rw [← (List.cons_prefix_cons.1 hstart).1] at hupper
    cases hupper
  | case2 d rest hlower ih =>
    rw [List.infix_cons_iff, not_or]
    refine ⟨fun hstart => ?_, ih⟩
    -- what follows the hyphen starts as it did, or with a capital
    obtain ⟨more, hmore⟩ := (List.cons_prefix_cons.1 hstart).2
    rcases head?_camelCase (d :: rest) c (by simp [← hmore]) with hd | hupper
    · exact hlower (Option.some.inj hd ▸ hc)
    · exact Char.not_isUpper_of_isLower hc hupper
  | case3 d rest hlast ih =>
    rw [List.infix_cons_iff, not_or]
    refine ⟨fun hstart => ?_, ih⟩
    obtain ⟨hd, hrest⟩ := List.cons_prefix_cons.1 hstart
    -- a hyphen that is kept here is the last character
    rcases rest with _ | ⟨e, rest⟩
    · simp [camelCase] at hrest
    · exact hlast e rest hd.symm rfl
  | case4 =>
    intro h
    cases List.infix_nil.1 h

/-- A name with humps starts with two hyphens only if the name that it comes from does. -/
theorem hyphens_prefix_of_camelCase {name : Text} (h : ['-', '-'] <+: camelCase name) :
    ['-', '-'] <+: name := by
  have hhyphen : ∀ t, ['-'] <+: camelCase t → t.head? = some '-' := by
    rintro t ⟨more, hmore⟩
    exact (head?_camelCase t '-' (by simp [← hmore])).resolve_right (by decide)
  obtain ⟨rest, rfl⟩ := List.head?_eq_some_iff.1 (hhyphen name ((List.prefix_append _ _).trans h))
  rcases rest with _ | ⟨d, rest⟩
  · exact absurd h.length_le (by decide)
  · rw [camelCase] at h
    split at h
    next hlower =>
      -- a capital is no hyphen
      have hupper := isUpper_toUpper hlower
      rw [← (List.cons_prefix_cons.1 h).1] at hupper
      cases hupper
    next =>
      obtain rfl := Option.some.inj (hhyphen (d :: rest) (List.cons_prefix_cons.1 h).2)
      exact List.prefix_append ['-', '-'] rest

/-! ### Identifiers -/

/-- A small letter followed by letters and digits. -/
def IsIdentifier (name : Text) : Prop :=
  ∃ c rest, name = c :: rest ∧ c.isLower ∧ ∀ d ∈ rest, d.isAlphanum

theorem IsIdentifier.isAlphanum {name : Text} (h : IsIdentifier name) :
    ∀ c ∈ name, c.isAlphanum := by
  obtain ⟨c, rest, rfl, hc, hrest⟩ := h
  exact List.forall_mem_cons.2 ⟨by simp [Char.isAlphanum, Char.isAlpha, hc], hrest⟩

/-- Letters and digits can follow an identifier. -/
theorem IsIdentifier.append {name more : Text} (h : IsIdentifier name)
    (hmore : ∀ c ∈ more, c.isAlphanum) : IsIdentifier (name ++ more) := by
  obtain ⟨c, rest, rfl, hc, hrest⟩ := h
  exact ⟨c, rest ++ more, rfl, hc, List.forall_mem_append.2 ⟨hrest, hmore⟩⟩

theorem isDigit_or_isLower_toLower {c : Char} (h : c.isAlphanum) :
    c.toLower.isDigit ∨ c.toLower.isLower := by
  rw [Char.isAlphanum, Bool.or_eq_true] at h
  rcases h with hletter | hdigit
  · right
    rwa [Char.isLower_toLower_eq_isAlpha]
  · by_cases hupper : c.isUpper
    · right
      rw [Char.isLower_toLower_eq_isAlpha, Char.isAlpha, hupper, Bool.true_or]
    · left
      rwa [Char.toLower_eq_of_not_isUpper hupper]

theorem finished_ne_nil {word : Text} (h : word ≠ []) : finished word ≠ [] := by
  rw [finished, List.isEmpty_eq_false_iff.2 h]
  exact List.cons_ne_nil _ _

/-- A label with a letter or a digit has a word. -/
theorem wordsFrom_ne_nil {word label : Text} (h : word ≠ [] ∨ ∃ c ∈ label, c.isAlphanum) :
    wordsFrom word label ≠ [] := by
  induction label generalizing word with
  | nil => exact finished_ne_nil (h.resolve_right fun ⟨_, hc, _⟩ => nomatch hc)
  | cons first label ih =>
    rw [wordsFrom]
    split
    · -- the first character is in some word
      split
      · exact List.append_ne_nil_of_right_ne_nil _ (ih (.inl (List.cons_ne_nil _ _)))
      · exact ih (.inl (List.cons_ne_nil _ _))
    · next hfirst =>
      rcases h with hword | ⟨c, hc, halphanum⟩
      · exact List.append_ne_nil_of_left_ne_nil (finished_ne_nil hword) _
      · refine List.append_ne_nil_of_right_ne_nil _ (ih (.inr ⟨c, ?_, halphanum⟩))
        refine (List.mem_cons.1 hc).resolve_left ?_
        rintro rfl
        exact hfirst halphanum

theorem ne_nil_of_mem_finished {word w : Text} (h : w ∈ finished word) : w ≠ [] := by
  rw [finished] at h
  split at h
  · cases h
  · next hne =>
    rw [List.mem_singleton.1 h, Ne, List.reverse_eq_nil_iff]
    exact fun hnil => hne (List.isEmpty_iff.2 hnil)

/-- No word is empty. -/
theorem ne_nil_of_mem_wordsFrom {word label w : Text} (h : w ∈ wordsFrom word label) : w ≠ [] := by
  induction label generalizing word with
  | nil => exact ne_nil_of_mem_finished h
  | cons first label ih =>
    rw [wordsFrom] at h
    split at h
    · split at h
      · exact (List.mem_append.1 h).elim ne_nil_of_mem_finished ih
      · exact ih h
    · exact (List.mem_append.1 h).elim ne_nil_of_mem_finished ih

/-- The words of a label are words with letters and digits only. -/
theorem words_eq_cons {label first : Text} {rest : List Text} (h : words label = first :: rest) :
    first ≠ [] ∧ ∀ w ∈ first :: rest, ∀ c ∈ w, c.isAlphanum := by
  rw [words] at h
  have hfirst : first ∈ wordsFrom [] label := h ▸ List.mem_cons_self
  rw [← h]
  exact ⟨ne_nil_of_mem_wordsFrom hfirst, fun w hw c hc =>
    isAlphanum_of_mem_wordsFrom (List.forall_mem_nil _) hw hc⟩

/-- What a label with a letter or a digit gives is an identifier. -/
theorem isIdentifier_identifier {label : Text} (h : words label ≠ []) :
    IsIdentifier (identifier label) := by
  obtain ⟨first, rest, hwords⟩ := List.exists_cons_of_ne_nil h
  obtain ⟨hne, hmem⟩ := words_eq_cons hwords
  obtain ⟨c, word, rfl⟩ := List.exists_cons_of_ne_nil hne
  rw [List.forall_mem_cons, List.forall_mem_cons] at hmem
  obtain ⟨⟨hc, hword⟩, hrest⟩ := hmem
  have hmore : ∀ d ∈ word ++ rest.flatMap capitalized, d.isAlphanum := by
    intro d hd
    rcases List.mem_append.1 hd with hd | hd
    · exact hword d hd
    · obtain ⟨w, hw, hd⟩ := List.mem_flatMap.1 hd
      exact isAlphanum_of_mem_capitalized (hrest w hw) hd
  rw [identifier, hwords]
  dsimp only [uncapitalized]
  split
  next hdigit =>
    -- a name that would start with a digit follows a word
    have hlead : IsIdentifier digitLead := ⟨'f', ['i', 'e', 'l', 'd'], rfl, rfl, by simp⟩
    have hdigit' : c.toLower.isDigit := hdigit
    refine hlead.append (List.forall_mem_cons.2 ⟨?_, hmore⟩)
    rw [Char.isAlphanum, hdigit', Bool.or_true]
  next hdigit => exact ⟨_, _, rfl, (isDigit_or_isLower_toLower hc).resolve_left hdigit, hmore⟩

/-- A label without a letter or a digit gives nothing. -/
theorem identifier_eq_nil {label : Text} (h : words label = []) : identifier label = [] := by
  rw [identifier, h]

/-! ### Free names -/

/-- The search ends at the first candidate that is not taken, or after its last try. -/
theorem firstFree_eq (taken : List Text) (stem : Text) (fuel n : Nat) :
    ∃ k ≤ fuel, firstFree taken stem fuel n = stem ++ Text.ofNat (n + k) ∧
      (∀ i < k, stem ++ Text.ofNat (n + i) ∈ taken) ∧
      (k < fuel → stem ++ Text.ofNat (n + k) ∉ taken) := by
  induction fuel generalizing n with
  | zero =>
    exact ⟨0, Nat.le_refl 0, rfl, fun i hi => absurd hi (Nat.not_lt_zero i),
      fun h => absurd h (Nat.lt_irrefl 0)⟩
  | succ fuel ih =>
    rw [firstFree]
    -- the search goes on with the next candidate if this one is taken
    by_cases htaken : stem ++ Text.ofNat n ∈ taken
    · obtain ⟨k, hk, heq, hbefore, hfree⟩ := ih (n + 1)
      rw [if_pos (List.contains_iff_mem.2 htaken)]
      refine ⟨k + 1, by omega, by rw [heq]; congr 2; omega, fun i hi => ?_, fun hlt => ?_⟩
      · cases i with
        | zero => exact htaken
        | succ i =>
          have := hbefore i (by omega)
          rwa [Nat.add_assoc, Nat.add_comm 1 i] at this
      · have := hfree (by omega)
        rwa [Nat.add_assoc, Nat.add_comm 1 k] at this
    · rw [if_neg (fun h => htaken (List.contains_iff_mem.1 h))]
      exact ⟨0, Nat.zero_le _, rfl, fun i hi => absurd hi (Nat.not_lt_zero i), fun _ => htaken⟩

/-- A name that is kept apart is the name itself, or the name with a number. -/
theorem unique_eq (taken : List Text) (base separator : Text) :
    unique taken base separator = base ∨
      ∃ n, unique taken base separator = base ++ separator ++ Text.ofNat n := by
  rw [unique]
  split
  · obtain ⟨k, -, heq, -⟩ := firstFree_eq taken (base ++ separator) taken.length 2
    exact .inr ⟨2 + k, heq⟩
  · exact .inl rfl

/-- Different names that are all taken are no more than the taken names. -/
theorem le_length_of_injective {taken : List Text} {f : Nat → Text} (hf : Function.Injective f)
    {k : Nat} (h : ∀ i < k, f i ∈ taken) : k ≤ taken.length := by
  have hsubset : (List.range k).map f ⊆ taken := by
    intro name hname
    obtain ⟨i, hi, rfl⟩ := List.mem_map.1 hname
    exact h i (List.mem_range.1 hi)
  simpa using (List.subperm_of_subset (List.nodup_range.map hf) hsubset).length_le

/-- There are not as many taken names as candidates. -/
theorem firstFree_not_mem (taken : List Text) (stem : Text) (n : Nat) :
    firstFree taken stem taken.length n ∉ taken := by
  obtain ⟨k, hk, heq, hbefore, hfree⟩ := firstFree_eq taken stem taken.length n
  rw [heq]
  intro hmem
  -- a taken name is returned only after all tries, so that every candidate is taken
  have hlast : k = taken.length := by
    by_contra hne
    exact hfree (by omega) hmem
  have hdifferent : Function.Injective fun i => stem ++ Text.ofNat (n + i) := by
    intro i j hij
    exact Nat.add_left_cancel (Text.ofNat_injective (List.append_cancel_left hij))
  have hall : ∀ i < taken.length + 1, stem ++ Text.ofNat (n + i) ∈ taken := by
    intro i hi
    by_cases hik : i < k
    · exact hbefore i hik
    · obtain rfl : i = k := by omega
      exact hmem
  exact absurd (le_length_of_injective hdifferent hall) (Nat.not_succ_le_self _)

/-- A name that is kept apart from the taken ones is none of them. -/
theorem unique_not_mem (taken : List Text) (base separator : Text) :
    unique taken base separator ∉ taken := by
  rw [unique]
  split
  · exact firstFree_not_mem taken _ 2
  · next hfree => exact fun h => hfree (List.contains_iff_mem.2 h)

end Naming

end Componentry
