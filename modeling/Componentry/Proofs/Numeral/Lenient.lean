import Componentry.Numeral.Lenient
import Componentry.Proofs.Numeral.Grouping

/-!
# Two readers of integers

There are two readers of integers. One takes digits of any script. The other takes ASCII digits
only, and it takes texts that the first one refuses, such as fractions of zeros. What they both take
are the numerals of ASCII digits, and these have the same value for both.

* `writes_of_readPlain`: what is read plainly is a numeral;
* `exists_tidied_of_grouped`: tidying leaves plain numerals of numerals;
* `readLenient_of_writes`: numerals are read leniently;
* `isNumeralChar_of_readLenient`: the characters of what is read leniently;
* `both_read_iff`: what both readers take.
-/

namespace Componentry.Numeral

open Written

variable {t digits : Text} {n : Int}

/-! ### Plain numerals -/

/-- Digits are tight if no zero comes before other digits. -/
def IsTight (digits : Text) : Prop := digits.head? = some '0' → digits = ['0']

theorem plainDigits_eq_self (h : ∀ c ∈ digits, c.isDigit) (htight : IsTight digits) :
    plainDigits digits = (digits, []) := by
  rw [plainDigits.eq_def]
  split
  next rest =>
    rw [List.cons.inj (htight rfl) |>.2]
  next =>
    rw [List.takeWhile_eq_self_iff.2 h, List.dropWhile_eq_nil_iff.2 h]

/-- Tight digits are read plainly. -/
theorem readPlain_of_isTight (h : ∀ c ∈ digits, c.isDigit) (hne : digits ≠ [])
    (htight : IsTight digits) (hlength : digits.length ≤ maxDigits) :
    readPlain digits = .ok (digitsValue digits) := by
  have hcut : cutMinus digits = (false, digits) := by
    rw [cutMinus.eq_def]
    split
    next => cases (List.forall_mem_cons.1 h).1
    next => rfl
  rw [readPlain, hcut]
  simp [plainDigits_eq_self h htight, Nat.not_lt.2 hlength, hne]

/-- Tight digits after a minus sign are read plainly. -/
theorem readPlain_minus_of_isTight (h : ∀ c ∈ digits, c.isDigit) (hne : digits ≠ [])
    (htight : IsTight digits) (hlength : digits.length ≤ maxDigits) :
    readPlain ('-' :: digits) = .ok (-(digitsValue digits : Int)) := by
  rw [readPlain, cutMinus]
  simp [plainDigits_eq_self h htight, Nat.not_lt.2 hlength, hne]

theorem cutMinus_cases (t : Text) :
    cutMinus t = (false, t) ∨ ∃ body, t = '-' :: body ∧ cutMinus t = (true, body) := by
  rw [cutMinus.eq_def]
  split
  next body => exact .inr ⟨body, rfl, rfl⟩
  next => exact .inl rfl

theorem plainDigits_append (t : Text) : (plainDigits t).1 ++ (plainDigits t).2 = t := by
  rw [plainDigits.eq_def]
  split
  · rfl
  · exact List.takeWhile_append_dropWhile

theorem isDigit_of_mem_plainDigits {c : Char} (h : c ∈ (plainDigits t).1) : c.isDigit := by
  rw [plainDigits.eq_def] at h
  split at h
  · rw [List.mem_singleton.1 h]
    rfl
  · exact List.mem_takeWhile_imp h

/-- What is read plainly is a numeral. -/
theorem writes_of_readPlain (h : readPlain t = .ok n) : Writes t n := by
  have hgrouped : ∀ {body : Text},
      ¬ ((plainDigits body).1.isEmpty || !(plainDigits body).2.isEmpty) →
      Grouped body (plainDigits body).1 := by
    intro body hnone
    simp only [Bool.or_eq_true, not_or, List.isEmpty_iff, Bool.not_eq_true, Bool.not_eq_false']
      at hnone
    have happend := plainDigits_append body
    rw [hnone.2, List.append_nil] at happend
    have hself := grouped_self (fun c => isDigit_of_mem_plainDigits) hnone.1
    rwa [happend] at hself ⊢
  rw [readPlain] at h
  rcases cutMinus_cases t with hcut | ⟨body, rfl, hcut⟩
  · simp only [hcut, Bool.false_eq_true, if_false] at h
    split_ifs at h with hlong hnone
    cases h
    exact .unsigned (hgrouped hnone) (Nat.not_lt.1 hlong)
  · simp only [hcut, if_true] at h
    split_ifs at h with hlong hnone
    cases h
    exact .minus (hgrouped hnone) (Nat.not_lt.1 hlong)

/-- A text with too long a plain numeral has too many digits. -/
theorem lt_length_filter_of_readPlain (h : readPlain t = .error .tooLong) :
    maxDigits < (t.filter Char.isDigit).length := by
  -- the digits at the start are some of the digits of the text
  have hcount : ∀ body : Text,
      (plainDigits body).1.length ≤ (body.filter Char.isDigit).length := by
    intro body
    calc (plainDigits body).1.length
        = ((plainDigits body).1.filter Char.isDigit).length := by
          rw [List.filter_eq_self.2 fun c => isDigit_of_mem_plainDigits]
      _ ≤ (body.filter Char.isDigit).length := by
          conv_rhs => rw [← plainDigits_append body, List.filter_append, List.length_append]
          exact Nat.le_add_right _ _
  rw [readPlain] at h
  rcases cutMinus_cases t with hcut | ⟨body, rfl, hcut⟩
  · simp only [hcut] at h
    split_ifs at h with hlong hnone
    · exact hlong.trans_le (hcount t)
    · cases h
  · simp only [hcut] at h
    split_ifs at h with hlong hnone
    · exact hlong.trans_le (hcount body)
    · cases h

/-! ### Tidied texts -/

theorem afterZeros?_of_grouped (h : Grouped t digits) (last : Char) :
    afterZeros? last t = dropZeros? t := by
  obtain ⟨c, rest, rfl, hc⟩ := h.exists_cons
  rw [afterZeros?, dropZeros?]
  by_cases hzero : c = '0'
  · rw [hzero]
    rfl
  · simp [hzero, ne_underscore hc, hc]

/-- Grouped digits without a zero in front stay as they are. -/
theorem dropZeros?_of_head?_ne (h : Grouped t digits) (hzero : t.head? ≠ some '0') :
    dropZeros? t = some t ∧ IsTight digits := by
  obtain ⟨c, rest, rfl, hc⟩ := h.exists_cons
  rw [List.head?_cons, ne_eq, Option.some.injEq] at hzero
  refine ⟨by simp [dropZeros?, hzero, hc], fun hhead => ?_⟩
  rw [h.digits_eq, List.filter_cons_of_pos hc, List.head?_cons, Option.some.injEq] at hhead
  exact absurd hhead hzero

/-- Grouped digits without the zeros in front of them are grouped digits of the same value. -/
theorem exists_dropZeros?_of_grouped (h : Grouped t digits) :
    ∃ u us, dropZeros? t = some u ∧ Grouped u us ∧ IsTight us ∧
      digitsValue us = digitsValue digits ∧ us.length ≤ digits.length := by
  induction h with
  | @last c hc =>
    by_cases hzero : c = '0'
    · subst hzero
      exact ⟨['0'], ['0'], rfl, .last hc, fun _ => rfl, rfl, le_rfl⟩
    · obtain ⟨hdrop, htight⟩ := dropZeros?_of_head?_ne (.last hc) (by simpa using hzero)
      exact ⟨_, _, hdrop, .last hc, htight, rfl, le_rfl⟩
  | @next c t digits hc ht ih =>
    by_cases hzero : c = '0'
    · -- the zero goes, and then the zeros after it
      subst hzero
      obtain ⟨u, us, hdrop, hus, htight, hvalue, hlength⟩ := ih
      refine ⟨u, us, ?_, hus, htight, hvalue, hlength.trans (Nat.le_succ _)⟩
      rw [dropZeros?, if_pos rfl, afterZeros?_of_grouped ht, hdrop]
    · obtain ⟨hdrop, htight⟩ := dropZeros?_of_head?_ne (.next hc ht) (by simpa using hzero)
      exact ⟨_, _, hdrop, .next hc ht, htight, rfl, le_rfl⟩
  | @group c t digits hc ht ih =>
    by_cases hzero : c = '0'
    · -- the underscore goes with the zero before it
      subst hzero
      obtain ⟨u, us, hdrop, hus, htight, hvalue, hlength⟩ := ih
      refine ⟨u, us, ?_, hus, htight, hvalue, hlength.trans (Nat.le_succ _)⟩
      rw [dropZeros?, if_pos rfl, afterZeros?, if_pos (by rfl), afterZeros?_of_grouped ht, hdrop]
    · obtain ⟨hdrop, htight⟩ := dropZeros?_of_head?_ne (.group hc ht) (by simpa using hzero)
      exact ⟨_, _, hdrop, .group hc ht, htight, rfl, le_rfl⟩

/-- Without its underscores a text of grouped digits is the digits. -/
theorem dropGrouping_of_grouped (h : Grouped t digits) : dropGrouping t = digits := by
  -- there is a digit on both sides of an underscore, so that no piece is empty
  have hgroups : ∃ piece more, Text.splitOn '_' t = piece :: more ∧
      (∀ group ∈ piece :: more, group ≠ []) ∧ (piece :: more).flatten = digits := by
    induction h with
    | @last c hc => exact ⟨[c], [], by simp [Text.splitOn, ne_underscore hc], by simp, by simp⟩
    | @next c t digits hc ht ih =>
      obtain ⟨piece, more, hsplit, hne, rfl⟩ := ih
      refine ⟨c :: piece, more, by simp [Text.splitOn, hsplit, ne_underscore hc], ?_, by simp⟩
      rw [List.forall_mem_cons] at hne ⊢
      exact ⟨List.cons_ne_nil _ _, hne.2⟩
    | @group c t digits hc ht ih =>
      obtain ⟨piece, more, hsplit, hne, rfl⟩ := ih
      exact ⟨[c], piece :: more, by simp [Text.splitOn, hsplit, ne_underscore hc],
        List.forall_mem_cons.2 ⟨List.cons_ne_nil _ _, hne⟩, by simp⟩
  obtain ⟨piece, more, hsplit, hne, hflatten⟩ := hgroups
  rw [dropGrouping, hsplit, if_pos, hflatten]
  rw [List.all_eq_true]
  exact fun group hgroup => by simpa using hne group hgroup

theorem dropZeroFraction_eq_self (h : '.' ∉ t) : dropZeroFraction t = t := by
  rw [dropZeroFraction]
  split
  next whole zeros hcut =>
    rw [(Text.cut?_eq_some_iff.1 hcut).1] at h
    exact absurd (List.mem_append_right _ List.mem_cons_self) h
  next => rfl

/-- Tidying leaves tight digits of grouped ones. -/
theorem exists_tidied_of_grouped (h : Grouped t digits) (hlength : digits.length ≤ maxDigits) :
    ∃ us, (dropZeros? t).map (fun t => dropGrouping (dropZeroFraction t)) = some us ∧
      readPlain us = .ok (digitsValue digits) ∧
      readPlain ('-' :: us) = .ok (-(digitsValue digits : Int)) := by
  obtain ⟨u, us, hdrop, hus, htight, hvalue, hshort⟩ := exists_dropZeros?_of_grouped h
  have hpoint : '.' ∉ u := by
    intro hmem
    rcases hus.isDigit_or_eq '.' hmem with hdigit | heq
    · cases hdigit
    · cases heq
  refine ⟨us, ?_, ?_, ?_⟩
  · rw [hdrop, Option.map_some, dropZeroFraction_eq_self hpoint, dropGrouping_of_grouped hus]
  · rw [← hvalue]
    exact readPlain_of_isTight hus.isDigit_of_mem hus.ne_nil htight (hshort.trans hlength)
  · rw [← hvalue]
    exact readPlain_minus_of_isTight hus.isDigit_of_mem hus.ne_nil htight (hshort.trans hlength)

/-- Numerals are read once they are tidied. -/
theorem map_readPlain_tidy? (h : Writes (unpadded t) n) :
    (tidy? t).map readPlain = some (.ok n) := by
  -- the second one of two signs is no digit
  have hsign : ∀ {body digits : Text}, ¬ Grouped ('-' :: body) digits := by
    intro body digits hbody
    obtain ⟨c, rest, heq, hc⟩ := hbody.exists_cons
    cases heq
    cases hc
  rw [tidy?, ← unpadded]
  generalize unpadded t = u at h
  split
  next rest =>
    obtain ⟨digits, hdigits, -, -⟩ := writes_plus_iff.1 h
    exact absurd hdigits hsign
  next body _ =>
    obtain ⟨digits, hdigits, hlength, rfl⟩ := writes_plus_iff.1 h
    obtain ⟨us, htidied, hplain, -⟩ := exists_tidied_of_grouped hdigits hlength
    rw [htidied, Option.map_some, hplain]
  next body =>
    obtain ⟨digits, hdigits, hlength, rfl⟩ := writes_minus_iff.1 h
    obtain ⟨us, htidied, -, hplain⟩ := exists_tidied_of_grouped hdigits hlength
    obtain ⟨u, hu, rfl⟩ := Option.map_eq_some_iff.1 htidied
    rw [hu, Option.map_some, Option.map_some, hplain]
  next hplus hminus =>
    rw [writes_unsigned_iff (fun rest heq => hminus rest heq) (fun rest heq => hplus rest heq)] at h
    obtain ⟨digits, hdigits, hlength, rfl⟩ := h
    obtain ⟨us, htidied, hplain, -⟩ := exists_tidied_of_grouped hdigits hlength
    rw [htidied, Option.map_some, hplain]

/-! ### What tidying takes away -/

theorem mem_dropGrouping {c : Char} (h : c ∈ t) : c ∈ dropGrouping t ∨ c = '_' := by
  rw [dropGrouping]
  split
  · exact Text.mem_flatten_splitOn h
  · exact .inl h

theorem mem_dropZeroFraction {c : Char} (h : c ∈ t) :
    c ∈ dropZeroFraction t ∨ IsNumeralChar c := by
  rw [dropZeroFraction]
  split
  next whole zeros hcut =>
    split
    next hzeros =>
      rw [(Text.cut?_eq_some_iff.1 hcut).1, List.mem_append, List.mem_cons] at h
      rcases h with h | rfl | h
      · exact .inl h
      · exact .inr (by decide)
      · have hzero := List.all_eq_true.1 (Bool.and_eq_true_iff.1 hzeros).2 c h
        rw [of_decide_eq_true hzero]
        exact .inr (by decide)
    next => exact .inl h
  next => exact .inl h

theorem mem_of_afterZeros? {u : Text} {last c : Char} (hu : afterZeros? last t = some u)
    (h : c ∈ t) : c ∈ u ∨ IsNumeralChar c ∨ c = '_' := by
  fun_induction afterZeros? last t with
  | case1 => cases h
  | case2 last d rest hd ih =>
    rcases List.mem_cons.1 h with rfl | h
    · rw [Bool.or_eq_true, decide_eq_true_iff, decide_eq_true_iff] at hd
      rcases hd with rfl | rfl
      · exact .inr (.inl (by decide))
      · exact .inr (.inr rfl)
    · exact ih hu h
  | case3 last d rest _ hd =>
    cases hu
    exact .inl h
  | case4 last rest =>
    cases hu
    exact .inl (List.mem_cons_of_mem _ h)
  | case5 => cases hu

theorem mem_of_dropZeros? {u : Text} {c : Char} (hu : dropZeros? t = some u) (h : c ∈ t) :
    c ∈ u ∨ IsNumeralChar c ∨ c = '_' := by
  cases t with
  | nil => cases h
  | cons d rest =>
    rw [dropZeros?] at hu
    split_ifs at hu with hzero
    · rcases List.mem_cons.1 h with rfl | h
      · exact .inr (.inl (by rw [hzero]; decide))
      · exact mem_of_afterZeros? hu h
    · cases hu
      exact .inl h

/-! ### The lenient reader -/

/-- Numerals are read leniently. -/
theorem readLenient_of_writes (h : Writes (unpadded t) n) : readLenient t = .ok n := by
  rw [readLenient]
  cases hread : readPlain t with
  | ok m =>
    -- the text is a numeral already, and so there is no padding around it
    have hwrites := writes_of_readPlain hread
    have hself : unpadded t = t := unpadded_eq_self fun c hc hpadding =>
      (isPlain_of_isNumeralChar_or_eq (hwrites.isNumeralChar c hc)).1
        (isBlank_of_isPadding hpadding)
    rw [hself] at h
    rw [hwrites.unique h]
  | error error =>
    cases error with
    | tooLong =>
      -- there are as many digits without the padding, and a numeral does not have so many
      have hlong := lt_length_filter_of_readPlain hread
      rw [← filter_isDigit_unpadded] at hlong
      exact absurd h.length_filter_le (Nat.not_le.2 hlong)
    | malformed =>
      dsimp only
      rw [map_readPlain_tidy? h]

/-- What is read leniently has only characters of numerals and underscores between the blanks around
it. -/
theorem isNumeralChar_of_readLenient (h : readLenient t = .ok n) :
    ∀ c ∈ unpadded t, IsNumeralChar c ∨ c = '_' := by
  -- what is left of a text is a numeral, and what is taken away are zeros, underscores and points
  have hbody : ∀ {body u : Text},
      (dropZeros? body).map (fun t => dropGrouping (dropZeroFraction t)) = some u →
      (∀ c ∈ u, IsNumeralChar c ∨ c = '_') → ∀ c ∈ body, IsNumeralChar c ∨ c = '_' := by
    intro body u htidied hu c hc
    obtain ⟨v, hv, rfl⟩ := Option.map_eq_some_iff.1 htidied
    rcases mem_of_dropZeros? hv hc with hc | hc
    · rcases mem_dropZeroFraction hc with hc | hc
      · rcases mem_dropGrouping hc with hc | hc
        · exact hu c hc
        · exact .inr hc
      · exact .inl hc
    · exact hc
  rw [readLenient] at h
  split at h
  · split at h
    next m htidy =>
      obtain ⟨u, hu, hread⟩ := Option.map_eq_some_iff.1 htidy
      have hnumeral := (writes_of_readPlain hread).isNumeralChar
      rw [tidy?, ← unpadded] at hu
      split at hu
      · cases hu
      next heq =>
        rw [heq, List.forall_mem_cons]
        exact ⟨.inl (by decide), hbody hu hnumeral⟩
      next body heq =>
        obtain ⟨v, hv, rfl⟩ := Option.map_eq_some_iff.1 hu
        rw [heq, List.forall_mem_cons]
        exact ⟨.inl (by decide), hbody (by rw [hv, Option.map_some])
          (List.forall_mem_cons.1 hnumeral).2⟩
      next => exact hbody hu hnumeral
    next => cases h
  next => exact fun c hc => (writes_of_readPlain h).isNumeralChar c (mem_of_mem_unpadded hc)

/-- Numerals that are read leniently have no blanks around them but padding. -/
theorem plain_trim_of_readLenient (h : readLenient t = .ok n) :
    plain (Text.trim t) = unpadded t := by
  have hplain : ∀ c ∈ unpadded t, ¬ isBlank c ∧ plainChar c = c := fun c hc =>
    isPlain_of_isNumeralChar_or_eq (isNumeralChar_of_readLenient h c hc)
  rw [trim_eq_unpadded fun c hc => (hplain c hc).1, plain_eq_of_forall hplain]

/-- Both readers take the numerals, and nothing else. -/
theorem both_read_iff {m : Int} :
    readLenient t = .ok m ∧ readInteger (Text.trim t) = .ok n ↔ Writes (unpadded t) n ∧ m = n := by
  constructor
  · rintro ⟨hlenient, hinteger⟩
    rw [readInteger_eq_ok_iff, plain_trim_of_readLenient hlenient] at hinteger
    refine ⟨hinteger, ?_⟩
    rw [readLenient_of_writes hinteger] at hlenient
    exact (Except.ok.inj hlenient).symm
  · rintro ⟨hwrites, rfl⟩
    have hlenient := readLenient_of_writes hwrites
    exact ⟨hlenient, readInteger_eq_ok_iff.2 (plain_trim_of_readLenient hlenient ▸ hwrites)⟩

/-- Both readers read a numeral alike. -/
theorem readLenient_iff_readInteger {m : Int} (h : Writes (unpadded t) n) :
    readLenient t = .ok m ↔ readInteger (Text.trim t) = .ok m := by
  obtain ⟨hlenient, hinteger⟩ := both_read_iff.2 ⟨h, rfl⟩
  rw [hlenient, hinteger, Except.ok.injEq, Except.ok.injEq]

end Componentry.Numeral
