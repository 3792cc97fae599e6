import Componentry.Proofs.Numeral.Integer
import Componentry.Proofs.Numeral.Shortest

/-!
# Written numbers read back

The text of a number has digits, a point with digits after it, and perhaps an exponent. It is read
back as the number.

* `Written`: the parts of a numeral;
* `Written.read?_text`: what a numeral is read as;
* `read?_toText`: the text of a number is read as the number.
-/

namespace Componentry.Numeral

/-! ### Values of digits -/

theorem digitsValue_ofNat (n : Nat) : digitsValue (Text.ofNat n) = n :=
  Nat.ofDigitChars_ten_toDigits

theorem digitsValue_append (left right : Text) :
    digitsValue (left ++ right) = digitsValue left * 10 ^ right.length + digitsValue right := by
  -- reading on starts with the value of the digits before
  have hfrom : ∀ n, right.foldl (fun n c => 10 * n + (c.toNat - '0'.toNat)) n =
      n * 10 ^ right.length + digitsValue right := by
    unfold digitsValue
    induction right with
    | nil => simp
    | cons c right ih =>
      intro n
      rw [List.foldl_cons, ih, List.foldl_cons, ih (10 * 0 + _), List.length_cons]
      ring
  rw [digitsValue, List.foldl_append, hfrom]
  rfl

@[simp]
theorem digitsValue_replicate_zero (k : Nat) : digitsValue (List.replicate k '0') = 0 := by
  induction k with
  | zero => rfl
  | succ k ih =>
    rw [List.replicate_succ', digitsValue_append, ih]
    rfl

/-- Zeros behind the last digit count as powers of ten. -/
theorem digitsValue_append_zeros (digits : Text) (k : Nat) :
    digitsValue (digits ++ List.replicate k '0') = digitsValue digits * 10 ^ k := by
  rw [digitsValue_append, digitsValue_replicate_zero, List.length_replicate, Nat.add_zero]

/-- Zeros in front of digits count nothing. -/
theorem digitsValue_zeros_append (k : Nat) (digits : Text) :
    digitsValue (List.replicate k '0' ++ digits) = digitsValue digits := by
  rw [digitsValue_append, digitsValue_replicate_zero, Nat.zero_mul, Nat.zero_add]

/-! ### Numerals -/

/-- The parts of a numeral without a sign. -/
structure Written where
  /-- The digits before the point. -/
  whole : Text
  /-- The digits after the point; without any there is no point. -/
  fraction : Text
  /-- The exponent, if there is one: whether it is negative, and its digits. -/
  power? : Option (Bool × Text)

namespace Written

/-- The fraction with its point. -/
def fractionText (w : Written) : Text := if w.fraction.isEmpty then [] else '.' :: w.fraction

/-- The exponent with its mark and its sign. -/
def powerText (w : Written) : Text :=
  match w.power? with
  | none => []
  | some (negative, digits) => 'e' :: (if negative then '-' else '+') :: digits

/-- The numeral. -/
def text (w : Written) : Text := w.whole ++ (w.fractionText ++ w.powerText)

/-- The exponent as a number. -/
def power (w : Written) : Int :=
  match w.power? with
  | none => 0
  | some (negative, digits) =>
    if negative then -(digitsValue digits : Int) else (digitsValue digits : Int)

/-- All digits as one number. -/
def digits (w : Written) : Nat := digitsValue (w.whole ++ w.fraction)

/-- The power of ten that the last digit counts. -/
def exponent (w : Written) : Int := w.power - w.fraction.length

/-- The parts make a numeral as JSON has them: there are digits before the point, and a zero that
comes first is the only one; and an exponent has digits. -/
structure WellFormed (w : Written) : Prop where
  /-- Digits stand before the point. -/
  whole : ∀ c ∈ w.whole, c.isDigit
  /-- There is a digit before the point, and it is zero only if there is no other. -/
  start : w.whole = ['0'] ∨ ∃ c rest, w.whole = c :: rest ∧ c ≠ '0'
  /-- Digits stand after the point. -/
  fraction : ∀ c ∈ w.fraction, c.isDigit
  /-- The exponent has digits only, and one at least. -/
  power : ∀ p ∈ w.power?, p.2 ≠ [] ∧ ∀ c ∈ p.2, c.isDigit

variable {w : Written}

theorem WellFormed.whole_ne_nil (h : w.WellFormed) : w.whole ≠ [] := by
  intro hnil
  rcases h.start with hzero | ⟨c, rest, hcons, -⟩
  · rw [hnil] at hzero
    cases hzero
  · rw [hnil] at hcons
    cases hcons

/-- A numeral starts with a digit. -/
theorem WellFormed.text_eq_cons (h : w.WellFormed) : ∃ c rest, w.whole = c :: rest ∧ c.isDigit ∧
    w.text = c :: (rest ++ (w.fractionText ++ w.powerText)) := by
  obtain ⟨c, rest, hcons⟩ := List.exists_cons_of_ne_nil h.whole_ne_nil
  exact ⟨c, rest, hcons, h.whole c (hcons ▸ List.mem_cons_self), by rw [text, hcons]; rfl⟩

/-- No digit and no underscore follows the fraction. -/
theorem head?_powerText : ∀ c ∈ w.powerText.head?, ¬ c.isDigit ∧ c ≠ '_' := by
  intro c hc
  rw [powerText] at hc
  split at hc
  · cases hc
  · cases hc
    decide

/-- No digit and no underscore follows the digits before the point. -/
theorem head?_fractionText_append :
    ∀ c ∈ (w.fractionText ++ w.powerText).head?, ¬ c.isDigit ∧ c ≠ '_' := by
  intro c hc
  rw [fractionText] at hc
  split at hc
  · exact head?_powerText c hc
  · cases hc
    decide

theorem readExponent?_powerText (h : w.WellFormed) :
    Double.readExponent? w.powerText = some w.power := by
  rw [powerText, power]
  split
  next => rfl
  next negative digits hpower =>
    obtain ⟨hne, hdigits⟩ := h.power _ hpower
    obtain ⟨c, rest, hcons⟩ := List.exists_cons_of_ne_nil hne
    have hread : groupedDigits? digits = some (digits, []) := digitsFrom?_eq hdigits
    dsimp only at hcons
    rw [hcons] at hread ⊢
    cases negative <;> simp [Double.readExponent?, hread]

/-- What a numeral without a sign is read as. -/
theorem readUnsigned?_text (h : w.WellFormed) (negative : Bool) :
    Double.readUnsigned? negative w.text =
      some (Double.ofDecimal negative w.digits w.exponent) := by
  have hwhole : groupedDigits? w.text = some (w.whole, w.fractionText ++ w.powerText) :=
    digitsFrom?_append h.whole head?_fractionText_append
  have hexponent := readExponent?_powerText h
  rw [Double.readUnsigned?, hwhole]
  by_cases hfraction : w.fraction = []
  · have htext : w.fractionText = [] := by rw [fractionText, hfraction]; rfl
    rw [digits, exponent, hfraction, htext, List.nil_append, List.append_nil]
    -- an exponent is not taken for a point
    have hpoint : ∀ rest, w.powerText ≠ '.' :: rest := by
      intro rest heq
      rw [powerText] at heq
      split at heq <;> cases heq
    simp [h.whole_ne_nil, hexponent]
  · have htext : w.fractionText = '.' :: w.fraction := by
      rw [fractionText, List.isEmpty_eq_false_iff.2 hfraction]
      rfl
    have hread : groupedDigits? (w.fraction ++ w.powerText) = some (w.fraction, w.powerText) :=
      digitsFrom?_append h.fraction head?_powerText
    rw [digits, exponent, htext]
    simp [hread, h.whole_ne_nil, hexponent]

/-- The characters that numerals consist of. -/
def IsNumeralChar (c : Char) : Prop := c.isDigit ∨ c ∈ ['.', 'e', '-', '+']

instance (c : Char) : Decidable (IsNumeralChar c) := inferInstanceAs (Decidable (_ ∨ _))

theorem isNumeralChar_of_mem_text (h : w.WellFormed) : ∀ c ∈ w.text, IsNumeralChar c := by
  intro c hc
  rw [text, fractionText, powerText] at hc
  rcases List.mem_append.1 hc with hc | hc
  · exact .inl (h.whole c hc)
  · rcases List.mem_append.1 hc with hc | hc
    · split at hc
      · cases hc
      · rcases List.mem_cons.1 hc with rfl | hc
        · exact .inr (by decide)
        · exact .inl (h.fraction c hc)
    · split at hc
      · cases hc
      · next negative digits hpower =>
        rcases List.mem_cons.1 hc with rfl | hc
        · exact .inr (by decide)
        · rcases List.mem_cons.1 hc with rfl | hc
          · cases negative <;> exact .inr (by decide)
          · exact .inl ((h.power _ hpower).2 c hc)

theorem exists_digitChar_eq {c : Char} (h : c.isDigit) : ∃ n < 10, Nat.digitChar n = c := by
  have hbounds : 48 ≤ c.toNat ∧ c.toNat ≤ 57 := by
    simpa [Char.isDigit, UInt32.le_iff_toNat_le] using h
  refine ⟨c.toNat - 48, by omega, Char.toNat_inj.1 ?_⟩
  rw [Nat.toNat_digitChar_of_lt_ten (by omega)]
  omega

theorem isNumeralChar_of_mem_signed (h : w.WellFormed) (negative : Bool) :
    ∀ c ∈ (if negative then ['-'] else []) ++ w.text, IsNumeralChar c := by
  intro c hc
  rcases List.mem_append.1 hc with hc | hc
  · cases negative
    · cases hc
    · rw [List.mem_singleton.1 hc]
      exact .inr (by decide)
  · exact isNumeralChar_of_mem_text h c hc

theorem isNumeralChar_of_mem_ofInt {n : Int} : ∀ c ∈ Text.ofInt n, IsNumeralChar c := by
  intro c hc
  rcases Text.minus_or_isDigit_of_mem_ofInt hc with rfl | hdigit
  · exact .inr (by decide)
  · exact .inl hdigit

/-- Numerals have no blanks, and no digits of other scripts. -/
theorem IsNumeralChar.isPlain {c : Char} (h : IsNumeralChar c) : ¬ isBlank c ∧ plainChar c = c := by
  rcases h with h | h
  · obtain ⟨n, hn, rfl⟩ := exists_digitChar_eq h
    exact (by decide : ∀ n < 10, ¬ isBlank (Nat.digitChar n) ∧
      plainChar (Nat.digitChar n) = Nat.digitChar n) n hn
  · simp only [List.mem_cons, List.not_mem_nil, or_false] at h
    rcases h with rfl | rfl | rfl | rfl <;> decide

/-- Numerals are plain already. -/
theorem plain_eq_self {t : Text} (h : ∀ c ∈ t, IsNumeralChar c) : plain t = t :=
  plain_eq_of_forall fun c hc => (h c hc).isPlain

/-- A text that starts with a digit is no sign and no name of a number. -/
theorem readMagnitude?_cons {negative : Bool} {c : Char} {rest : Text} (h : c.isDigit) :
    Double.readMagnitude? negative (c :: rest) =
      Double.readUnsigned? negative (c :: rest) := by
  have hlower : c.toLower.isDigit := by
    obtain ⟨n, hn, rfl⟩ := exists_digitChar_eq h
    exact (by decide : ∀ n < 10, (Nat.digitChar n).toLower.isDigit) n hn
  have hname : ∀ first more, ¬ first.isDigit → (c :: rest).map Char.toLower ≠ first :: more := by
    rintro first more hfirst heq
    rw [← (List.cons.inj heq).1] at hfirst
    exact hfirst hlower
  rw [Double.readMagnitude?, if_neg, if_neg]
  · exact hname 'n' _ (by decide)
  · rw [Bool.or_eq_true, decide_eq_true_iff, decide_eq_true_iff]
    rintro (heq | heq)
    · exact hname 'i' _ (by decide) heq
    · exact hname 'i' _ (by decide) heq

/-- A sign and a numeral are read as a decimal fraction. -/
theorem read?_text (h : w.WellFormed) (negative : Bool) :
    Double.read? ((if negative then ['-'] else []) ++ w.text) =
      some (Double.ofDecimal negative w.digits w.exponent) := by
  obtain ⟨c, rest, -, hc, htext⟩ := h.text_eq_cons
  have hunsigned := readUnsigned?_text h negative
  rw [Double.read?, plain_eq_self]
  · cases negative with
    | true =>
      rw [htext] at hunsigned ⊢
      exact (readMagnitude?_cons hc).trans hunsigned
    | false =>
      rw [htext] at hunsigned ⊢
      -- a digit is no sign
      have hminus : c ≠ '-' := by
        rintro rfl
        cases hc
      have hplus : c ≠ '+' := by
        rintro rfl
        cases hc
      simpa [hminus, hplus, readMagnitude?_cons hc] using hunsigned
  · exact isNumeralChar_of_mem_signed h negative

end Written

/-! ### Layouts -/

namespace Double

open Written

variable {digits : Text}

theorem isDigit_of_mem_zeros {k : Nat} {c : Char} (h : c ∈ List.replicate k '0') : c.isDigit := by
  rw [(List.mem_replicate.1 h).2]
  decide

/-- Powers of ten can be moved between digits and exponent. -/
theorem mul_pow_mul_zpow (n k : Nat) (e : Int) :
    ((n * 10 ^ k : Nat) : ℚ) * 10 ^ e = n * 10 ^ (e + k) := by
  rw [zpow_add₀ (by norm_num), zpow_natCast]
  push_cast
  ring

/-- The parts of digits around a point. -/
def positionalParts (digits : Text) : Int → Written
  | .ofNat n =>
    ⟨digits.take (n + 1) ++ List.replicate (n + 1 - (digits.take (n + 1)).length) '0',
      if (digits.drop (n + 1)).isEmpty then ['0'] else digits.drop (n + 1), none⟩
  | .negSucc n => ⟨['0'], List.replicate n '0' ++ digits, none⟩

/-- The parts of digits with an exponent. -/
def scientificParts (digits : Text) (exponent : Int) : Written where
  whole := digits.take 1
  fraction := digits.drop 1
  power? := some (decide (exponent < 0),
    List.replicate (2 - (Text.ofNat exponent.natAbs).length) '0' ++ Text.ofNat exponent.natAbs)

/-- The parts of laid out digits. -/
def layoutParts (digits : Text) (exponent : Int) : Written :=
  if -4 ≤ exponent && exponent < 16 then positionalParts digits exponent
  else scientificParts digits exponent

theorem fraction_positionalParts_ne_nil (h : digits ≠ []) (exponent : Int) :
    (positionalParts digits exponent).fraction ≠ [] := by
  cases exponent with
  | ofNat n =>
    rw [positionalParts]
    dsimp only
    split
    · exact List.cons_ne_nil _ _
    · next hne => exact fun hnil => hne (by rw [hnil]; rfl)
  | negSucc n => simpa [positionalParts] using fun _ => h

theorem text_layoutParts (h : digits ≠ []) (exponent : Int) :
    (layoutParts digits exponent).text = layout digits exponent := by
  rw [layoutParts, layout]
  split
  · have hfraction := fraction_positionalParts_ne_nil h exponent
    rw [text, fractionText, List.isEmpty_eq_false_iff.2 hfraction]
    cases exponent with
    | ofNat n => simp [positionalParts, positional, powerText]
    | negSucc n => simp [positionalParts, positional, powerText]
  · rw [text, fractionText]
    have hshort : digits.tail = [] ↔ digits.length ≤ 1 := by
      rw [← List.drop_one, List.drop_eq_nil_iff]
    simp [scientificParts, scientific, powerText, hshort]

theorem wellFormed_positionalParts (hdigits : ∀ c ∈ digits, c.isDigit) {first : Char} {rest : Text}
    (hcons : digits = first :: rest) (hfirst : first ≠ '0') (exponent : Int) :
    (positionalParts digits exponent).WellFormed := by
  cases exponent with
  | ofNat n =>
    refine ⟨?_, .inr ⟨first, rest.take n ++ List.replicate (n + 1 - (digits.take (n + 1)).length)
      '0', ?_, hfirst⟩, ?_, fun _ h => nomatch h⟩
    · -- the first digits and the zeros up to the point
      intro c hc
      rcases List.mem_append.1 hc with hc | hc
      · exact hdigits c (List.mem_of_mem_take hc)
      · exact isDigit_of_mem_zeros hc
    · rw [positionalParts, hcons]
      rfl
    · -- the other digits, or a zero if there are none
      rw [positionalParts]
      dsimp only
      split
      · intro c hc
        rw [List.mem_singleton.1 hc]
        decide
      · exact fun c hc => hdigits c (List.mem_of_mem_drop hc)
  | negSucc n =>
    refine ⟨List.forall_mem_singleton.2 rfl, .inl rfl, ?_, fun _ h => nomatch h⟩
    intro c hc
    rcases List.mem_append.1 hc with hc | hc
    · exact isDigit_of_mem_zeros hc
    · exact hdigits c hc

theorem wellFormed_scientificParts (hdigits : ∀ c ∈ digits, c.isDigit) {first : Char} {rest : Text}
    (hcons : digits = first :: rest) (hfirst : first ≠ '0') (exponent : Int) :
    (scientificParts digits exponent).WellFormed where
  whole _ hc := hdigits _ (List.mem_of_mem_take hc)
  start := .inr ⟨first, [], by rw [scientificParts, hcons]; rfl, hfirst⟩
  fraction _ hc := hdigits _ (List.mem_of_mem_drop hc)
  power p hp := by
    cases hp
    refine ⟨List.append_ne_nil_of_right_ne_nil _ (Text.ofNat_ne_nil _), fun c hc => ?_⟩
    rcases List.mem_append.1 hc with hc | hc
    · exact isDigit_of_mem_zeros hc
    · exact Text.isDigit_of_mem_ofNat hc

theorem wellFormed_layoutParts (hdigits : ∀ c ∈ digits, c.isDigit) {first : Char} {rest : Text}
    (hcons : digits = first :: rest) (hfirst : first ≠ '0') (exponent : Int) :
    (layoutParts digits exponent).WellFormed := by
  rw [layoutParts]
  split
  · exact wellFormed_positionalParts hdigits hcons hfirst exponent
  · exact wellFormed_scientificParts hdigits hcons hfirst exponent

theorem value_positionalParts (digits : Text) (exponent : Int) :
    ((positionalParts digits exponent).digits * 10 ^ (positionalParts digits exponent).exponent :
        ℚ) = digitsValue digits * 10 ^ (exponent + 1 - digits.length) := by
  cases exponent with
  | ofNat n =>
    rw [Written.digits, Written.exponent, positionalParts]
    dsimp only
    by_cases hlong : digits.length ≤ n + 1
    · -- all digits stand before the point, and zeros fill the places up to it
      have hzeros : List.replicate (n + 1 - digits.length) '0' ++ ['0'] =
          List.replicate (n + 1 - digits.length + 1) '0' := List.replicate_succ'.symm
      rw [List.take_of_length_le hlong, List.drop_of_length_le hlong, List.isEmpty_nil, if_pos rfl,
        List.append_assoc, hzeros, digitsValue_append_zeros, mul_pow_mul_zpow]
      congr 2
      simp only [Written.power, List.length_singleton, Int.ofNat_eq_natCast]
      omega
    · -- the point stands between the digits
      rw [Nat.not_le] at hlong
      have hdrop : digits.drop (n + 1) ≠ [] := by
        rw [Ne, List.drop_eq_nil_iff]
        omega
      rw [List.isEmpty_eq_false_iff.2 hdrop, List.length_take_of_le hlong.le, Nat.sub_self,
        List.replicate_zero, List.append_nil, if_neg Bool.false_ne_true, List.take_append_drop]
      congr 2
      simp only [Written.power, List.length_drop, Int.ofNat_eq_natCast]
      omega
  | negSucc n =>
    rw [Written.digits, Written.exponent, positionalParts]
    dsimp only
    rw [show ['0'] = List.replicate 1 '0' from rfl, digitsValue_zeros_append,
      digitsValue_zeros_append]
    congr 2
    simp only [Written.power, List.length_append, List.length_replicate]
    omega

theorem value_scientificParts (h : digits ≠ []) (exponent : Int) :
    ((scientificParts digits exponent).digits * 10 ^ (scientificParts digits exponent).exponent :
        ℚ) = digitsValue digits * 10 ^ (exponent + 1 - digits.length) := by
  have hlength := List.length_pos_iff.2 h
  -- the point stands after the first digit, and the exponent is filled up with zeros in front
  rw [Written.digits, Written.exponent, Written.power, scientificParts]
  dsimp only
  rw [List.take_append_drop, digitsValue_zeros_append, digitsValue_ofNat, List.length_drop]
  congr 2
  split
  next hnegative =>
    rw [decide_eq_true_iff] at hnegative
    omega
  next hnegative =>
    rw [decide_eq_true_iff] at hnegative
    omega

/-- Laid out digits have their value. -/
theorem value_layoutParts (h : digits ≠ []) (exponent : Int) :
    ((layoutParts digits exponent).digits * 10 ^ (layoutParts digits exponent).exponent : ℚ) =
      digitsValue digits * 10 ^ (exponent + 1 - digits.length) := by
  rw [layoutParts]
  split
  · exact value_positionalParts digits exponent
  · exact value_scientificParts h exponent

/-- Laid out digits have a point or an exponent. -/
theorem fractional_layoutParts (h : digits ≠ []) (exponent : Int) :
    (layoutParts digits exponent).fractionText ≠ [] ∨
      (layoutParts digits exponent).powerText ≠ [] := by
  rw [layoutParts]
  split
  · left
    rw [fractionText, List.isEmpty_eq_false_iff.2 (fraction_positionalParts_ne_nil h exponent)]
    exact List.cons_ne_nil _ _
  · exact .inr (List.cons_ne_nil _ _)

/-! ### Texts of numbers -/

/-- Digits without the zeros at their end. -/
def significant (digits : Text) : Text := (digits.reverse.dropWhile (· = '0')).reverse

/-- The zeros at the end of digits are all that is taken away from them. -/
theorem exists_significant_append (digits : Text) :
    ∃ k, digits = significant digits ++ List.replicate k '0' := by
  refine ⟨(digits.reverse.takeWhile (· = '0')).length, ?_⟩
  -- what is taken away consists of zeros, so that its order does not matter
  have hzeros : List.replicate (digits.reverse.takeWhile (· = '0')).length '0' =
      (digits.reverse.takeWhile (· = '0')).reverse := by
    rw [← List.reverse_replicate]
    refine congrArg List.reverse (List.eq_replicate_of_mem fun c hc => ?_).symm
    have hzero := List.mem_takeWhile_imp hc
    exact of_decide_eq_true hzero
  rw [hzeros, significant, ← List.reverse_append, List.takeWhile_append_dropWhile,
    List.reverse_reverse]

/-- The parts of the text of a number without its sign. -/
def parts (m : Nat) (e : Int) : Written :=
  if m = 0 then ⟨['0'], ['0'], none⟩
  else
    layoutParts (significant (Text.ofNat (shortestDigits m e).1))
      ((shortestDigits m e).2 + (Text.ofNat (shortestDigits m e).1).length - 1)

variable {negative : Bool} {m : Nat} {e : Int}

/-- The significant digits of a number: they do not start with a zero, and the zeros after them
count as powers of ten. -/
theorem significant_shortestDigits (hcanonical : (finite negative m e).Canonical) (hm : 0 < m) :
    (∀ c ∈ significant (Text.ofNat (shortestDigits m e).1), c.isDigit) ∧
      ∃ first rest k, significant (Text.ofNat (shortestDigits m e).1) = first :: rest ∧
        first ≠ '0' ∧
        Text.ofNat (shortestDigits m e).1 = first :: rest ++ List.replicate k '0' := by
  have hpos := shortestDigits_pos hcanonical hm
  obtain ⟨digits, hdigits⟩ : ∃ digits, Text.ofNat (shortestDigits m e).1 = digits := ⟨_, rfl⟩
  have hhead := Text.head?_ofNat_ne_zero hpos
  have hall : ∀ c ∈ digits, c.isDigit := hdigits ▸ fun c => Text.isDigit_of_mem_ofNat
  have hne : digits ≠ [] := hdigits ▸ Text.ofNat_ne_nil _
  rw [hdigits] at hhead ⊢
  obtain ⟨k, hk⟩ := exists_significant_append digits
  refine ⟨fun c hc => hall c (hk ▸ List.mem_append_left _ hc), ?_⟩
  cases hsignificant : significant digits with
  | nil =>
    -- there would be zeros only
    rw [hsignificant, List.nil_append] at hk
    cases k with
    | zero => exact absurd hk hne
    | succ k =>
      rw [hk] at hhead
      exact absurd rfl (hhead '0' rfl)
  | cons first rest =>
    rw [hsignificant] at hk
    refine ⟨first, rest, k, rfl, ?_, hk⟩
    rw [hk] at hhead
    exact hhead first rfl

theorem toText_eq (hcanonical : (finite negative m e).Canonical) :
    (finite negative m e).toText = (if negative then ['-'] else []) ++ (parts m e).text := by
  rw [toText, parts]
  refine congrArg _ ?_
  split
  · rfl
  · next hm =>
    obtain ⟨-, first, rest, -, hcons, -⟩ :=
      significant_shortestDigits hcanonical (Nat.pos_of_ne_zero hm)
    rw [text_layoutParts (by rw [hcons]; exact List.cons_ne_nil _ _)]
    rfl

theorem wellFormed_parts (hcanonical : (finite negative m e).Canonical) :
    (parts m e).WellFormed := by
  rw [parts]
  split
  · exact ⟨List.forall_mem_singleton.2 rfl, .inl rfl, List.forall_mem_singleton.2 rfl,
      fun _ h => nomatch h⟩
  · next hm =>
    obtain ⟨hdigits, first, rest, -, hcons, hfirst, -⟩ :=
      significant_shortestDigits hcanonical (Nat.pos_of_ne_zero hm)
    exact wellFormed_layoutParts hdigits hcons hfirst _

theorem isNumeralChar_of_mem_toText (hcanonical : (finite negative m e).Canonical) :
    ∀ c ∈ (finite negative m e).toText, IsNumeralChar c := by
  rw [toText_eq hcanonical]
  exact isNumeralChar_of_mem_signed (wellFormed_parts hcanonical) negative

theorem toText_ne_nil (hcanonical : (finite negative m e).Canonical) :
    (finite negative m e).toText ≠ [] := by
  rw [toText_eq hcanonical]
  exact List.append_ne_nil_of_right_ne_nil _
    (List.append_ne_nil_of_left_ne_nil (wellFormed_parts hcanonical).whole_ne_nil _)

/-- The text of a number has a point or an exponent. -/
theorem fractional_parts (hcanonical : (finite negative m e).Canonical) :
    (parts m e).fractionText ≠ [] ∨ (parts m e).powerText ≠ [] := by
  rw [parts]
  split
  · exact .inl (List.cons_ne_nil _ _)
  · next hm =>
    obtain ⟨-, first, rest, -, hcons, -⟩ :=
      significant_shortestDigits hcanonical (Nat.pos_of_ne_zero hm)
    exact fractional_layoutParts (by rw [hcons]; exact List.cons_ne_nil _ _) _

/-- The parts of a number are rounded to it. -/
theorem ofDecimal_parts (hcanonical : (finite negative m e).Canonical) :
    ofDecimal negative (parts m e).digits (parts m e).exponent = .finite negative m e := by
  rcases Nat.eq_zero_or_pos m with rfl | hm
  · obtain ⟨-, -, -, hmantissa⟩ := hcanonical
    rw [hmantissa.resolve_left (by decide)]
    rfl
  · refine ofDecimal_of_rounds hcanonical hm ?_
    obtain ⟨-, first, rest, k, hcons, -, hzeros⟩ := significant_shortestDigits hcanonical hm
    have hvalue : digitsValue (first :: rest) * 10 ^ k = (shortestDigits m e).1 := by
      rw [← digitsValue_append_zeros, ← hzeros, digitsValue_ofNat]
    have hrounds := rounds_shortestDigits hcanonical hm
    rw [parts, if_neg hm.ne', hcons, value_layoutParts (List.cons_ne_nil _ _), hzeros,
      List.length_append, List.length_replicate]
    rw [← hvalue, mul_pow_mul_zpow] at hrounds
    convert hrounds using 3
    push_cast
    ring

/-- The text of a number is read as the number. -/
theorem read?_toText (hcanonical : (finite negative m e).Canonical) :
    read? (finite negative m e).toText = some (.finite negative m e) := by
  rw [toText_eq hcanonical, Written.read?_text (wellFormed_parts hcanonical),
    ofDecimal_parts hcanonical]

end Double

end Componentry.Numeral
