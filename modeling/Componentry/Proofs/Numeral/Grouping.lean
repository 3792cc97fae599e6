import Componentry.Proofs.Numeral.Written

/-!
# Numerals with grouped digits

The numeral of an integer is a sign or none and then digits, perhaps with single underscores between
them. There may be blanks around it. Numerals are what the reader of integers takes, once the digits
are those of ASCII.

* `Grouped`, `Writes`: digits with underscores between them, and numerals;
* `unpadded`: a text without the blanks around it;
* `readInteger_eq_ok_iff`: what the reader of integers takes;
* `Writes.unique`: a numeral has one value.
-/

namespace Componentry.Numeral

open Written

/-- Digits, perhaps with single underscores between them, and the digits alone. -/
inductive Grouped : Text → Text → Prop
  /-- A digit alone. -/
  | last {c : Char} (h : c.isDigit) : Grouped [c] [c]
  /-- A digit and then another one. -/
  | next {c : Char} {t digits : Text} (h : c.isDigit) (ht : Grouped t digits) :
      Grouped (c :: t) (c :: digits)
  /-- A digit and then another one after an underscore. -/
  | group {c : Char} {t digits : Text} (h : c.isDigit) (ht : Grouped t digits) :
      Grouped (c :: '_' :: t) (c :: digits)

/-- A text is a numeral of the integer: a sign or none, and then digits, of which there are not too
many. -/
inductive Writes : Text → Int → Prop
  /-- There is no sign. -/
  | unsigned {t digits : Text} (h : Grouped t digits) (hlength : digits.length ≤ maxDigits) :
      Writes t (digitsValue digits)
  /-- There is a plus sign. -/
  | plus {t digits : Text} (h : Grouped t digits) (hlength : digits.length ≤ maxDigits) :
      Writes ('+' :: t) (digitsValue digits)
  /-- There is a minus sign. -/
  | minus {t digits : Text} (h : Grouped t digits) (hlength : digits.length ≤ maxDigits) :
      Writes ('-' :: t) (-(digitsValue digits : Int))

/-- A text without the blanks around it that may surround a numeral. -/
def unpadded (t : Text) : Text := ((t.dropWhile isPadding).reverse.dropWhile isPadding).reverse

variable {t digits : Text} {n : Int}

/-! ### Grouped digits -/

namespace Grouped

theorem exists_cons (h : Grouped t digits) : ∃ c rest, t = c :: rest ∧ c.isDigit := by
  cases h with
  | last h => exact ⟨_, _, rfl, h⟩
  | next h _ => exact ⟨_, _, rfl, h⟩
  | group h _ => exact ⟨_, _, rfl, h⟩

theorem ne_nil (h : Grouped t digits) : digits ≠ [] := by
  cases h <;> exact List.cons_ne_nil _ _

/-- The digits are what is left of a text without its underscores. -/
theorem digits_eq (h : Grouped t digits) : digits = t.filter Char.isDigit := by
  induction h with
  | last h => simp [h]
  | next h _ ih => rw [List.filter_cons_of_pos h, ← ih]
  | group h _ ih => rw [List.filter_cons_of_pos h, List.filter_cons_of_neg (by decide), ← ih]

theorem isDigit_of_mem (h : Grouped t digits) : ∀ c ∈ digits, c.isDigit := by
  rw [h.digits_eq]
  exact fun c hc => (List.mem_filter.1 hc).2

/-- There are only digits and underscores. -/
theorem isDigit_or_eq (h : Grouped t digits) : ∀ c ∈ t, c.isDigit ∨ c = '_' := by
  induction h with
  | last h => exact List.forall_mem_singleton.2 (.inl h)
  | next h _ ih => exact List.forall_mem_cons.2 ⟨.inl h, ih⟩
  | group h _ ih => exact List.forall_mem_cons.2 ⟨.inl h, List.forall_mem_cons.2 ⟨.inr rfl, ih⟩⟩

end Grouped

/-- Digits alone are grouped digits. -/
theorem grouped_self {digits : Text} (h : ∀ c ∈ digits, c.isDigit) (hne : digits ≠ []) :
    Grouped digits digits := by
  induction digits with
  | nil => exact absurd rfl hne
  | cons c rest ih =>
    rw [List.forall_mem_cons] at h
    cases rest with
    | nil => exact .last h.1
    | cons d rest => exact .next h.1 (ih h.2 (List.cons_ne_nil _ _))

theorem ne_underscore {c : Char} (h : c.isDigit) : c ≠ '_' := by
  rintro rfl
  cases h

theorem digitsFrom?_cons {grouping : Bool} {c : Char} (h : c.isDigit) (rest : Text) :
    digitsFrom? grouping (c :: rest) =
      (digitsFrom? true rest).map fun (digits, after) => (c :: digits, after) := by
  have hne := ne_underscore h
  rw [digitsFrom?.eq_def]
  split
  next heq => cases heq
  next heq => exact absurd (List.cons.inj heq).1 hne
  next heq => exact absurd (List.cons.inj heq).1 hne
  next heq =>
    cases heq
    rw [if_pos h]

/-- Grouped digits are read up to their end. -/
theorem digitsFrom?_of_grouped (h : Grouped t digits) (grouping : Bool) :
    digitsFrom? grouping t = some (digits, []) := by
  induction h generalizing grouping with
  | last h => rw [digitsFrom?_cons h]; rfl
  | next h _ ih => rw [digitsFrom?_cons h, ih]; rfl
  | group h ht ih =>
    -- the underscore is read together with the digit after it
    obtain ⟨d, rest, rfl, hd⟩ := ht.exists_cons
    have hrest := ih true
    rw [digitsFrom?_cons hd] at hrest
    rw [digitsFrom?_cons h, digitsFrom?, if_pos (by rw [Bool.true_and, hd]), hrest]
    rfl

/-- What is read up to its end after a digit is grouped digits together with it. -/
theorem grouped_cons_of_digitsFrom? (h : digitsFrom? true t = some (digits, [])) {c : Char}
    (hc : c.isDigit) : Grouped (c :: t) (c :: digits) := by
  -- a digit has been read before every step, so that an underscore may come next
  generalize hgrouping : true = grouping at h
  fun_induction digitsFrom? grouping t generalizing digits c with
  | case1 grouping =>
    cases h
    exact .last hc
  | case2 grouping => cases h
  | case3 grouping d rest hd ih =>
    obtain ⟨⟨ds, after⟩, hrest, heq⟩ := Option.map_eq_some_iff.1 h
    cases heq
    exact .group hc (ih (Bool.and_eq_true_iff.1 hd).2 rfl hrest)
  | case4 grouping d rest hd => cases h
  | case5 grouping d rest _ _ hd ih =>
    obtain ⟨⟨ds, after⟩, hrest, heq⟩ := Option.map_eq_some_iff.1 h
    cases heq
    exact .next hc (ih hd rfl hrest)
  | case6 grouping d rest _ _ hd => cases h

/-- Texts that are read up to their end are grouped digits. -/
theorem grouped_of_digitsFrom? (h : digitsFrom? false t = some (digits, [])) (hne : digits ≠ []) :
    Grouped t digits := by
  cases t with
  | nil => exact absurd (by cases h; rfl) hne
  | cons c rest =>
    -- without a digit at the start nothing is read, not even an underscore
    by_cases hc : c.isDigit
    · rw [digitsFrom?_cons hc] at h
      obtain ⟨⟨ds, after⟩, hrest, heq⟩ := Option.map_eq_some_iff.1 h
      cases heq
      exact grouped_cons_of_digitsFrom? hrest hc
    · rw [digitsFrom?.eq_def] at h
      split at h <;> simp_all

/-! ### The reader of integers -/

theorem readNatural_eq_ok_iff {source : Text} {k : Nat} :
    readNatural source t = .ok k ↔
      ∃ digits, Grouped t digits ∧ digits.length ≤ maxDigits ∧ k = digitsValue digits := by
  rw [readNatural, groupedDigits?]
  constructor
  · intro h
    split at h
    next => cases h
    next digits after hread =>
      split_ifs at h with hlong hnone
      rw [Bool.or_eq_true, not_or, Bool.not_eq_true, Bool.not_eq_true, Bool.not_eq_false',
        List.isEmpty_iff] at hnone
      obtain ⟨hne, rfl⟩ := hnone
      exact ⟨digits, grouped_of_digitsFrom? hread (by simpa using hne), Nat.not_lt.1 hlong,
        (Except.ok.inj h).symm⟩
  · rintro ⟨digits, hdigits, hlength, rfl⟩
    rw [digitsFrom?_of_grouped hdigits]
    simp [Nat.not_lt.2 hlength, hdigits.ne_nil]

theorem map_readNatural_eq_ok_iff {source : Text} (sign : Int → Int) :
    ((readNatural source t : Except IntegerError Int)).map sign = .ok n ↔
      ∃ digits, Grouped t digits ∧ digits.length ≤ maxDigits ∧ n = sign (digitsValue digits) := by
  constructor
  · intro h
    cases hread : readNatural source t with
    | error error =>
      rw [hread] at h
      cases h
    | ok k =>
      rw [hread] at h
      obtain ⟨digits, hdigits, hlength, rfl⟩ := readNatural_eq_ok_iff.1 hread
      exact ⟨digits, hdigits, hlength, (Except.ok.inj h).symm⟩
  · rintro ⟨digits, hdigits, hlength, rfl⟩
    rw [readNatural_eq_ok_iff.2 ⟨digits, hdigits, hlength, rfl⟩]
    rfl

/-! ### Signs -/

theorem writes_minus_iff :
    Writes ('-' :: t) n ↔
      ∃ digits, Grouped t digits ∧ digits.length ≤ maxDigits ∧ n = -(digitsValue digits : Int) := by
  constructor
  · intro h
    cases h with
    | unsigned h hlength =>
      obtain ⟨c, rest, heq, hc⟩ := h.exists_cons
      cases heq
      cases hc
    | minus h hlength => exact ⟨_, h, hlength, rfl⟩
  · rintro ⟨digits, h, hlength, rfl⟩
    exact .minus h hlength

theorem writes_plus_iff :
    Writes ('+' :: t) n ↔
      ∃ digits, Grouped t digits ∧ digits.length ≤ maxDigits ∧ n = digitsValue digits := by
  constructor
  · intro h
    cases h with
    | unsigned h hlength =>
      obtain ⟨c, rest, heq, hc⟩ := h.exists_cons
      cases heq
      cases hc
    | plus h hlength => exact ⟨_, h, hlength, rfl⟩
  · rintro ⟨digits, h, hlength, rfl⟩
    exact .plus h hlength

theorem writes_unsigned_iff (hminus : ∀ rest, t ≠ '-' :: rest) (hplus : ∀ rest, t ≠ '+' :: rest) :
    Writes t n ↔
      ∃ digits, Grouped t digits ∧ digits.length ≤ maxDigits ∧ n = digitsValue digits := by
  constructor
  · intro h
    cases h with
    | unsigned h hlength => exact ⟨_, h, hlength, rfl⟩
    | plus h hlength => exact absurd rfl (hplus _)
    | minus h hlength => exact absurd rfl (hminus _)
  · rintro ⟨digits, h, hlength, rfl⟩
    exact .unsigned h hlength

/-- The reader of integers takes numerals, once the blanks around them are gone and their digits are
those of ASCII. -/
theorem readInteger_eq_ok_iff {source : Text} :
    readInteger source = .ok n ↔ Writes (plain source) n := by
  rw [readInteger]
  split
  next body heq =>
    rw [heq, writes_minus_iff]
    exact map_readNatural_eq_ok_iff fun n => -n
  next body heq =>
    rw [heq, writes_plus_iff]
    exact map_readNatural_eq_ok_iff fun n => n
  next hminus hplus =>
    rw [writes_unsigned_iff (fun rest h => hminus rest h) (fun rest h => hplus rest h)]
    exact map_readNatural_eq_ok_iff fun n => n

/-! ### Blanks around numerals -/

theorem isBlank_of_isPadding {c : Char} (h : isPadding c) : isBlank c :=
  (Bool.and_eq_true_iff.1 h).1

/-- Only padding is taken away. -/
theorem mem_unpadded {c : Char} (h : c ∈ t) (hc : ¬ isPadding c) : c ∈ unpadded t := by
  have hstay : ∀ {u : Text}, c ∈ u → c ∈ u.dropWhile isPadding := by
    intro u hu
    rw [← List.takeWhile_append_dropWhile (p := isPadding) (l := u), List.mem_append] at hu
    exact hu.resolve_left fun htake => hc (List.mem_takeWhile_imp htake)
  rw [unpadded, List.mem_reverse]
  exact hstay (List.mem_reverse.2 (hstay h))

theorem mem_of_mem_unpadded {c : Char} (h : c ∈ unpadded t) : c ∈ t := by
  rw [unpadded, List.mem_reverse] at h
  exact (List.dropWhile_subset _) (List.mem_reverse.1 (List.dropWhile_subset _ h))

/-- All blanks around a text are padding if no others are left around it. -/
theorem trim_eq_unpadded (h : ∀ c ∈ unpadded t, ¬ isBlank c) : Text.trim t = unpadded t := by
  -- what follows the padding in front of a part of the text is no blank
  have hfront : ∀ {u : Text}, u ⊆ t → u.dropWhile isBlank = u.dropWhile isPadding := by
    intro u hu
    have hhead : ∀ c ∈ (u.dropWhile isPadding).head?, ¬ isBlank c := by
      intro c hc
      obtain ⟨rest, hrest⟩ := List.head?_eq_some_iff.1 hc
      have hmem : c ∈ u := List.dropWhile_subset _ (hrest ▸ List.mem_cons_self)
      exact h c (mem_unpadded (hu hmem) (Text.head_dropWhile hrest))
    calc u.dropWhile isBlank
        = (u.takeWhile isPadding ++ u.dropWhile isPadding).dropWhile isBlank := by
          rw [List.takeWhile_append_dropWhile]
      _ = u.dropWhile isPadding :=
          Text.dropWhile_append_eq
            (fun c hc => isBlank_of_isPadding (List.mem_takeWhile_imp hc)) hhead
  have hback : (t.dropWhile isPadding).reverse ⊆ t := fun c hc =>
    List.dropWhile_subset _ (List.mem_reverse.1 hc)
  rw [Text.trim, Text.trimEnd, Text.trimStart, hfront (List.Subset.refl t), hfront hback, unpadded]

theorem unpadded_prefix (t : Text) : unpadded t <+: t.dropWhile isPadding := by
  rw [unpadded, ← List.reverse_suffix, List.reverse_reverse]
  exact List.dropWhile_suffix _

/-- A text without padding has none around it. -/
theorem unpadded_eq_self (h : ∀ c ∈ t, ¬ isPadding c) : unpadded t = t := by
  have hkeep : ∀ {u : Text}, (∀ c ∈ u, c ∈ t) → u.dropWhile isPadding = u := fun hu =>
    Text.dropWhile_eq_self fun c hc => h c (hu c (List.mem_of_mem_head? hc))
  rw [unpadded, hkeep fun _ => id, hkeep fun _ => List.mem_reverse.1, List.reverse_reverse]

/-- No digit is padding. -/
theorem filter_isDigit_unpadded (t : Text) :
    (unpadded t).filter Char.isDigit = t.filter Char.isDigit := by
  have hfilter : ∀ u : Text,
      (u.dropWhile isPadding).filter Char.isDigit = u.filter Char.isDigit := by
    intro u
    induction u with
    | nil => rfl
    | cons c u ih =>
      rw [List.dropWhile_cons]
      split
      next hc =>
        have hdigit : ¬ c.isDigit := by
          intro hdigit
          exact (IsNumeralChar.isPlain (.inl hdigit)).1 (isBlank_of_isPadding hc)
        rw [ih, List.filter_cons_of_neg hdigit]
      next => rfl
  rw [unpadded, List.filter_reverse, hfilter, List.filter_reverse, List.reverse_reverse, hfilter]

/-- Numerals with underscores have no blanks, and no digits of other scripts. -/
theorem isPlain_of_isNumeralChar_or_eq {c : Char} (h : IsNumeralChar c ∨ c = '_') :
    ¬ isBlank c ∧ plainChar c = c := by
  rcases h with h | rfl
  · exact h.isPlain
  · decide

/-! ### Numerals -/

namespace Writes

/-- Numerals have only characters of numerals and underscores. -/
theorem isNumeralChar (h : Writes t n) : ∀ c ∈ t, IsNumeralChar c ∨ c = '_' := by
  have hdigits : ∀ {t digits : Text}, Grouped t digits → ∀ c ∈ t, IsNumeralChar c ∨ c = '_' :=
    fun h c hc => (h.isDigit_or_eq c hc).imp_left .inl
  cases h with
  | unsigned h _ => exact hdigits h
  | plus h _ => exact List.forall_mem_cons.2 ⟨.inl (.inr (by decide)), hdigits h⟩
  | minus h _ => exact List.forall_mem_cons.2 ⟨.inl (.inr (by decide)), hdigits h⟩

/-- Numerals are plain already. -/
theorem plain_eq (h : Writes t n) : plain t = t :=
  plain_eq_of_forall fun c hc => isPlain_of_isNumeralChar_or_eq (h.isNumeralChar c hc)

/-- A text is the numeral of one integer at most. -/
theorem unique {m : Int} (hm : Writes t m) (hn : Writes t n) : m = n := by
  have hread : ∀ {k : Int}, Writes t k → readInteger t = .ok k := fun hk =>
    readInteger_eq_ok_iff.2 (hk.plain_eq.symm ▸ hk)
  exact Except.ok.inj ((hread hm).symm.trans (hread hn))

theorem ne_nil (h : Writes t n) : t ≠ [] := by
  cases h with
  | unsigned h _ =>
    obtain ⟨c, rest, rfl, -⟩ := h.exists_cons
    exact List.cons_ne_nil _ _
  | plus _ _ => exact List.cons_ne_nil _ _
  | minus _ _ => exact List.cons_ne_nil _ _

theorem length_filter_le (h : Writes t n) : (t.filter Char.isDigit).length ≤ maxDigits := by
  -- a sign is no digit
  cases h with
  | unsigned h hlength => exact h.digits_eq ▸ hlength
  | plus h hlength => exact h.digits_eq ▸ hlength
  | minus h hlength => exact h.digits_eq ▸ hlength

/-- After the dash of a numeral comes a digit. -/
theorem exists_digit {rest : Text} (h : Writes (unpadded ('-' :: rest)) n) :
    ∃ c more, rest = c :: more ∧ c.isDigit := by
  obtain ⟨tail, htail⟩ := unpadded_prefix ('-' :: rest)
  rw [List.dropWhile_cons_of_neg (by decide)] at htail
  obtain ⟨c, u, hcons⟩ := List.exists_cons_of_ne_nil h.ne_nil
  rw [hcons] at h htail
  obtain ⟨rfl, rfl⟩ := List.cons.inj htail
  obtain ⟨digits, hdigits, -⟩ := writes_minus_iff.1 h
  obtain ⟨c, more, rfl, hc⟩ := hdigits.exists_cons
  exact ⟨c, more ++ tail, rfl, hc⟩

end Writes

end Componentry.Numeral
