import Componentry.Numeral.Double
import Mathlib.Algebra.Order.Field.Power
import Mathlib.Algebra.Order.Field.Rat
import Mathlib.Data.Nat.Cast.Order.Field
import Mathlib.Tactic.FieldSimp
import Mathlib.Tactic.Linarith
import Mathlib.Tactic.Ring
import Mathlib.Tactic.NormNum

/-!
# Rounding to binary floating-point numbers

A positive quotient is rounded to the nearest number of the format, and a tie to the one with an
even mantissa.

* `Rounds`: the quotients that a number is the nearest one of;
* `ofQuotient_of_rounds` and `ofDecimal_of_rounds`: a quotient or a decimal fraction near a number
  is rounded to it;
* `canonical_read?`: what is read is a number of the format.
-/

namespace Componentry.Numeral.Double

/-! ### Quotients -/

theorem two_zpow_pos (e : Int) : (0 : ℚ) < 2 ^ e := zpow_pos (by norm_num) e

theorem ten_zpow_pos (e : Int) : (0 : ℚ) < 10 ^ e := zpow_pos (by norm_num) e

theorem two_zpow_add_one (e : Int) : (2 : ℚ) ^ (e + 1) = 2 * 2 ^ e := by
  rw [zpow_add_one₀ (by norm_num), mul_comm]

/-- A quotient in units of a power of two. -/
theorem scaled_eq (num : Nat) {den : Nat} (hden : 0 < den) (e : Int) :
    0 < (scaled num den e).2 ∧
      ((scaled num den e).1 : ℚ) / (scaled num den e).2 = num / den / 2 ^ e := by
  have hden' : (den : ℚ) ≠ 0 := by positivity
  cases e with
  | ofNat e =>
    refine ⟨Nat.mul_pos hden (Nat.pow_pos (by decide)), ?_⟩
    rw [scaled]
    push_cast [Nat.pow_eq, Int.ofNat_eq_natCast, zpow_natCast]
    rw [div_div]
  | negSucc e =>
    refine ⟨hden, ?_⟩
    rw [scaled, zpow_negSucc]
    push_cast [Nat.pow_eq]
    rw [div_inv_eq_mul, mul_div_right_comm]

/-- A quotient lies half a unit or less from what it is rounded to. -/
theorem roundedQuotient_near {n d : Nat} (hd : 0 < d) :
    (roundedQuotient n d : ℚ) - 1 / 2 ≤ n / d ∧ (n : ℚ) / d ≤ roundedQuotient n d + 1 / 2 := by
  have hd' : (0 : ℚ) < d := by exact_mod_cast hd
  have hsum : (d * (n / d : Nat) + (n % d : Nat) : ℚ) = n := by exact_mod_cast Nat.div_add_mod n d
  have hless : ((n % d : Nat) : ℚ) < d := by exact_mod_cast Nat.mod_lt n hd
  rw [le_div_iff₀ hd', div_le_iff₀ hd', ← hsum, roundedQuotient]
  split
  -- the remainder is at most half of the divisor
  next hdown =>
    have hhalf : (2 * (n % d : Nat) : ℚ) ≤ d := by
      have : 2 * (n % d) ≤ d := by
        simp only [Bool.or_eq_true, Bool.and_eq_true, decide_eq_true_eq] at hdown
        omega
      exact_mod_cast this
    have hrest : (0 : ℚ) ≤ (n % d : Nat) := Nat.cast_nonneg _
    constructor <;> linarith
  -- it is half of the divisor or more
  next hup =>
    have hhalf : (d : ℚ) ≤ 2 * (n % d : Nat) := by
      have : d ≤ 2 * (n % d) := by
        simp only [Bool.or_eq_true, decide_eq_true_eq] at hup
        omega
      exact_mod_cast this
    push_cast
    constructor <;> linarith

/-- A quotient is rounded to what it lies less than half a unit from, or just half a unit if that is
even. -/
theorem roundedQuotient_eq {n d m : Nat} (hd : 0 < d) (hlow : (m : ℚ) - 1 / 2 ≤ n / d)
    (hhigh : (n : ℚ) / d ≤ m + 1 / 2)
    (hodd : m % 2 = 1 → (m : ℚ) - 1 / 2 < n / d ∧ (n : ℚ) / d < m + 1 / 2) :
    roundedQuotient n d = m := by
  have hd' : (0 : ℚ) < d := by exact_mod_cast hd
  rw [le_div_iff₀ hd'] at hlow
  rw [div_le_iff₀ hd'] at hhigh
  rw [lt_div_iff₀ hd', div_lt_iff₀ hd'] at hodd
  -- the conditions in whole numbers
  have hlow' : 2 * (m * d) ≤ 2 * n + d := by
    have : (2 * (m * d) : ℚ) ≤ 2 * n + d := by linarith
    exact_mod_cast this
  have hhigh' : 2 * n ≤ 2 * (m * d) + d := by
    have : (2 * n : ℚ) ≤ 2 * (m * d) + d := by linarith
    exact_mod_cast this
  have hodd' : m % 2 = 1 → 2 * (m * d) < 2 * n + d ∧ 2 * n < 2 * (m * d) + d := by
    intro h
    obtain ⟨h1, h2⟩ := hodd h
    have h3 : (2 * (m * d) : ℚ) < 2 * n + d := by linarith
    have h4 : (2 * n : ℚ) < 2 * (m * d) + d := by linarith
    exact ⟨by exact_mod_cast h3, by exact_mod_cast h4⟩
  have hn := Nat.div_add_mod n d
  have hr := Nat.mod_lt n hd
  -- `m` is the quotient or the number after it
  have hcases : m = n / d ∨ m = n / d + 1 := by
    rcases lt_trichotomy m (n / d) with h | h | h
    · have := Nat.mul_le_mul_right d (Nat.succ_le_of_lt h)
      rw [Nat.succ_mul, Nat.mul_comm (n / d)] at this
      omega
    · exact .inl h
    · right
      refine le_antisymm (Nat.le_of_lt_succ ?_) h
      by_contra hge
      have := Nat.mul_le_mul_right d (Nat.not_lt.1 hge)
      rw [Nat.succ_eq_add_one, Nat.add_mul, Nat.add_mul, Nat.mul_comm (n / d)] at this
      omega
  rw [roundedQuotient]
  rcases hcases with h | h
  · rw [h, Nat.mul_comm (n / d)] at hhigh' hodd'
    rw [if_pos, h]
    simp only [Bool.or_eq_true, Bool.and_eq_true, decide_eq_true_eq]
    omega
  · rw [h, Nat.add_mul, Nat.mul_comm (n / d)] at hlow' hodd'
    rw [if_neg, h]
    simp only [Bool.or_eq_true, Bool.and_eq_true, decide_eq_true_eq]
    omega

/-! ### Exponents -/

/-- In units of `2 ^ e` a positive number has a mantissa of 53 bits, or of fewer at the least
exponent. -/
structure Fits (x : ℚ) (e : Int) : Prop where
  /-- The exponent is not less than the least one. -/
  least : minExponent ≤ e
  /-- The mantissa has at most 53 bits. -/
  upper : x < 2 ^ 53 * 2 ^ e
  /-- The mantissa has at least 53 bits. -/
  lower : e ≠ minExponent → 2 ^ 52 * 2 ^ e ≤ x

theorem Fits.le {x : ℚ} {e e' : Int} (h : Fits x e) (h' : Fits x e') : e ≤ e' := by
  -- with a greater exponent the mantissa would have too few bits
  by_contra hlt
  have hne : e ≠ minExponent := fun heq => hlt (heq ▸ h'.least)
  have hstep : (2 : ℚ) ^ (e' + 1) ≤ 2 ^ e := zpow_le_zpow_right₀ (by norm_num) (by omega)
  rw [two_zpow_add_one] at hstep
  have hlower := h.lower hne
  have hupper := h'.upper
  linarith

/-- There is one exponent that fits. -/
theorem Fits.unique {x : ℚ} {e e' : Int} (h : Fits x e) (h' : Fits x e') : e = e' :=
  le_antisymm (h.le h') (h'.le h)

/-- A quotient lies between the powers of two that the lengths of its parts say. -/
theorem quotient_bounds {num den : Nat} (hnum : 0 < num) (hden : 0 < den) :
    (2 : ℚ) ^ ((num.log2 : Int) - den.log2 - 1) ≤ num / den ∧
      (num : ℚ) / den < 2 ^ ((num.log2 : Int) - den.log2 + 1) := by
  have hden' : (0 : ℚ) < den := by exact_mod_cast hden
  have h1 : ((2 ^ num.log2 : Nat) : ℚ) ≤ num := by exact_mod_cast Nat.log2_self_le hnum.ne'
  have h2 : (num : ℚ) < ((2 ^ (num.log2 + 1) : Nat) : ℚ) := by exact_mod_cast Nat.lt_log2_self
  have h3 : ((2 ^ den.log2 : Nat) : ℚ) ≤ den := by exact_mod_cast Nat.log2_self_le hden.ne'
  have h4 : (den : ℚ) < ((2 ^ (den.log2 + 1) : Nat) : ℚ) := by exact_mod_cast Nat.lt_log2_self
  push_cast [← zpow_natCast] at h1 h2 h3 h4
  rw [le_div_iff₀ hden', div_lt_iff₀ hden']
  constructor
  · calc (2 : ℚ) ^ ((num.log2 : Int) - den.log2 - 1) * den
        ≤ 2 ^ ((num.log2 : Int) - den.log2 - 1) * 2 ^ ((den.log2 : Int) + 1) :=
          mul_le_mul_of_nonneg_left h4.le (two_zpow_pos _).le
      _ = 2 ^ (num.log2 : Int) := by rw [← zpow_add₀ (by norm_num)]; congr 1; ring
      _ ≤ num := h1
  · calc (num : ℚ) < 2 ^ ((num.log2 : Int) + 1) := h2
      _ = 2 ^ ((num.log2 : Int) - den.log2 + 1) * 2 ^ (den.log2 : Int) := by
          rw [← zpow_add₀ (by norm_num)]; congr 1; ring
      _ ≤ 2 ^ ((num.log2 : Int) - den.log2 + 1) * den :=
          mul_le_mul_of_nonneg_left h3 (two_zpow_pos _).le

/-- The exponent of a quotient fits. -/
theorem fits_exponentOf {num den : Nat} (hnum : 0 < num) (hden : 0 < den) :
    Fits (num / den) (exponentOf num den) := by
  obtain ⟨hlower, hupper⟩ := quotient_bounds hnum hden
  obtain ⟨low, hlow⟩ : ∃ low, low = max ((num.log2 : Int) - den.log2 - 53) minExponent := ⟨_, rfl⟩
  obtain ⟨hd, hscaled⟩ := scaled_eq num hden low
  have hd' : (0 : ℚ) < (scaled num den low).2 := by exact_mod_cast hd
  -- the test on the whole part is one on the quotient
  have htest : (scaled num den low).1 / (scaled num den low).2 < mantissaLimit ↔
      (num : ℚ) / den < 2 ^ 53 * 2 ^ low := by
    rw [Nat.div_lt_iff_lt_mul hd, ← div_lt_iff₀ (two_zpow_pos low), ← hscaled, div_lt_iff₀ hd']
    rw [show mantissaLimit = 2 ^ 53 from rfl]
    exact_mod_cast Iff.rfl
  have hleast : minExponent ≤ low := by omega
  rw [exponentOf, ← hlow]
  dsimp only
  split
  next h =>
    refine ⟨hleast, htest.1 h, fun hne => le_trans ?_ hlower⟩
    rw [show (2 : ℚ) ^ 52 = 2 ^ (52 : Int) by norm_num, ← zpow_add₀ (by norm_num)]
    exact zpow_le_zpow_right₀ (by norm_num) (by omega)
  next h =>
    rw [htest, not_lt] at h
    refine ⟨by omega, hupper.trans_le ?_, fun _ => ?_⟩
    · rw [show (2 : ℚ) ^ 53 = 2 ^ (53 : Int) by norm_num, ← zpow_add₀ (by norm_num)]
      exact zpow_le_zpow_right₀ (by norm_num) (by omega)
    · rw [two_zpow_add_one]
      linarith

/-! ### Rounding -/

/-- A mantissa that reaches the limit is halved, and the exponent grows. -/
theorem ofQuotient_eq {negative : Bool} {num den m : Nat} {e : Int}
    (he : exponentOf num den = e)
    (hm : roundedQuotient (scaled num den e).1 (scaled num den e).2 = m) :
    ofQuotient negative num den =
      if m = mantissaLimit then
        if maxExponent < e + 1 then .infinite negative
        else .finite negative leastMantissa (e + 1)
      else if maxExponent < e then .infinite negative
      else .finite negative m e := by
  rw [ofQuotient, he]
  dsimp only
  rw [hm]
  split <;> rfl

/-- A quotient is rounded to a number of the format, unless it is too large. -/
theorem canonical_ofQuotient (negative : Bool) {num den : Nat} (hnum : 0 < num) (hden : 0 < den) :
    (ofQuotient negative num den).Canonical := by
  obtain ⟨e, he⟩ : ∃ e, exponentOf num den = e := ⟨_, rfl⟩
  obtain ⟨m, hm⟩ : ∃ m, roundedQuotient (scaled num den e).1 (scaled num den e).2 = m := ⟨_, rfl⟩
  have hfits := fits_exponentOf hnum hden
  obtain ⟨hd, hscaled⟩ := scaled_eq num hden e
  obtain ⟨hbelow, habove⟩ := roundedQuotient_near (n := (scaled num den e).1) hd
  rw [he] at hfits
  rw [hscaled, hm] at hbelow habove
  have hpos := two_zpow_pos e
  have hleast := hfits.least
  -- the mantissa is at most one more than the greatest one
  have hupper : m ≤ mantissaLimit := by
    have hlt := (div_lt_iff₀ hpos).2 hfits.upper
    have : (m : ℚ) < (2 ^ 53 + 1 : Nat) := by
      push_cast
      linarith
    exact Nat.le_of_lt_succ (by exact_mod_cast this)
  have hlower : e ≠ minExponent → leastMantissa ≤ m := by
    intro hne
    have hle := (le_div_iff₀ hpos).2 (hfits.lower hne)
    have : ((2 ^ 52 : Nat) : ℚ) < (m + 1 : Nat) := by
      push_cast
      linarith
    exact Nat.le_of_lt_succ (by exact_mod_cast this)
  rw [ofQuotient_eq he hm]
  split_ifs with hcarry hlarge hlarge
  · trivial
  · exact ⟨by decide, by omega, by omega, .inl le_rfl⟩
  · trivial
  · refine ⟨by omega, hleast, by omega, ?_⟩
    by_cases hne : e = minExponent
    · exact .inr hne
    · exact .inl (hlower hne)

/-- How far below a number the numbers are that are rounded to it, in units of its exponent. Below a
power of two the numbers of the format lie closer. -/
def gapBelow (m : Nat) (e : Int) : ℚ := if m = leastMantissa ∧ minExponent < e then 1 / 4 else 1 / 2

theorem gapBelow_le (m : Nat) (e : Int) : gapBelow m e ≤ 1 / 2 := by
  rw [gapBelow]
  split <;> norm_num

/-- No number of the format is nearer to `x` than `m * 2 ^ e`, and if another one is as near then
`m` is even. -/
structure Rounds (m : Nat) (e : Int) (x : ℚ) : Prop where
  /-- It is not too far below. -/
  below : (m - gapBelow m e) * 2 ^ e ≤ x
  /-- It is not too far above. -/
  above : x ≤ (m + 1 / 2) * 2 ^ e
  /-- If the mantissa is odd, it is not in the middle. -/
  inside : m % 2 = 1 → (m - gapBelow m e) * 2 ^ e < x ∧ x < (m + 1 / 2) * 2 ^ e

/-- Only zero is rounded to zero. -/
theorem Rounds.pos {m : Nat} {e : Int} {x : ℚ} (h : Rounds m e x) (hm : 0 < m) : 0 < x := by
  have hm' : (1 : ℚ) ≤ m := by exact_mod_cast hm
  have hgap := gapBelow_le m e
  exact (mul_pos (by linarith) (two_zpow_pos e)).trans_le h.below

theorem cast_le_of_lt_mantissaLimit {m : Nat} (h : m < mantissaLimit) : (m : ℚ) ≤ 2 ^ 53 - 1 := by
  have : ((m + 1 : Nat) : ℚ) ≤ (2 ^ 53 : Nat) := by exact_mod_cast h
  push_cast at this
  linarith

section ofQuotient

variable {negative : Bool} {m num den : Nat} {e : Int}

/-- A quotient near a number that has the exponent of the number is rounded to it. -/
theorem ofQuotient_of_rounds_of_fits (hcanonical : (finite negative m e).Canonical) (hnum : 0 < num)
    (hden : 0 < den) (h : Rounds m e (num / den)) (hfits : Fits (num / den) e) :
    ofQuotient negative num den = .finite negative m e := by
  obtain ⟨hm, -, hmax, -⟩ := hcanonical
  have hpos := two_zpow_pos e
  have hgap := gapBelow_le m e
  have he : exponentOf num den = e := (fits_exponentOf hnum hden).unique hfits
  obtain ⟨hd, hscaled⟩ := scaled_eq num hden e
  have hround : roundedQuotient (scaled num den e).1 (scaled num den e).2 = m := by
    refine roundedQuotient_eq hd ?_ ?_ fun hodd => ?_
    · rw [hscaled, le_div_iff₀ hpos]
      exact le_trans (mul_le_mul_of_nonneg_right (by linarith) hpos.le) h.below
    · rw [hscaled, div_le_iff₀ hpos]
      exact h.above
    · rw [hscaled, lt_div_iff₀ hpos, div_lt_iff₀ hpos]
      exact (h.inside hodd).imp_left
        (mul_le_mul_of_nonneg_right (by linarith) hpos.le).trans_lt
  rw [ofQuotient_eq he hround, if_neg hm.ne, if_neg (by omega)]

/-- A number that some quotient below its own exponent is rounded to is a power of two. -/
theorem eq_leastMantissa_of_rounds (hcanonical : (finite negative m e).Canonical)
    (hne : e ≠ minExponent) {x : ℚ} (h : Rounds m e x) (hlow : x < 2 ^ 52 * 2 ^ e) :
    m = leastMantissa := by
  obtain ⟨-, -, -, hmantissa⟩ := hcanonical
  have hgap := gapBelow_le m e
  have hlt := lt_of_mul_lt_mul_right (h.below.trans_lt hlow) (two_zpow_pos e).le
  refine le_antisymm ?_ (hmantissa.resolve_right hne)
  have : (m : ℚ) < (2 ^ 52 + 1 : Nat) := by
    push_cast
    linarith
  exact Nat.le_of_lt_succ (by exact_mod_cast this)

/-- A quotient just below a power of two has the exponent before that of the power, and is rounded
up to it. -/
theorem ofQuotient_of_rounds_of_lt (hcanonical : (finite negative m e).Canonical)
    (hnum : 0 < num) (hden : 0 < den) (h : Rounds m e (num / den)) (hne : e ≠ minExponent)
    (hlow : (num : ℚ) / den < 2 ^ 52 * 2 ^ e) :
    ofQuotient negative num den = .finite negative m e := by
  have hpower := eq_leastMantissa_of_rounds hcanonical hne h hlow
  obtain ⟨-, hmin, hmax, -⟩ := hcanonical
  have hstep : (2 : ℚ) ^ e = 2 * 2 ^ (e - 1) := by rw [← two_zpow_add_one, sub_add_cancel]
  have hpos := two_zpow_pos (e - 1)
  have hbelow : (2 ^ 52 - 1 / 4) * (2 * 2 ^ (e - 1)) ≤ (num : ℚ) / den := by
    have hnarrow : gapBelow m e = 1 / 4 := by rw [gapBelow, if_pos ⟨hpower, by omega⟩]
    have hbelow := h.below
    rwa [hnarrow, hpower, show (leastMantissa : ℚ) = 2 ^ 52 by norm_num [leastMantissa], hstep]
      at hbelow
  rw [hstep] at hlow
  have he : exponentOf num den = e - 1 := by
    refine (fits_exponentOf hnum hden).unique ⟨by omega, by linarith, fun _ => le_trans ?_ hbelow⟩
    rw [← mul_assoc]
    exact mul_le_mul_of_nonneg_right (by norm_num) hpos.le
  obtain ⟨hd, hscaled⟩ := scaled_eq num hden (e - 1)
  -- in units of that exponent the mantissa reaches the limit
  have hround : roundedQuotient (scaled num den (e - 1)).1 (scaled num den (e - 1)).2 =
      mantissaLimit := by
    rw [show mantissaLimit = 2 ^ 53 from rfl]
    refine roundedQuotient_eq hd ?_ ?_ fun hodd => ?_
    · rw [hscaled, le_div_iff₀ hpos]
      push_cast
      linarith
    · rw [hscaled, div_le_iff₀ hpos]
      push_cast
      linarith
    · exact absurd hodd (by decide)
  rw [ofQuotient_eq he hround, if_pos rfl, sub_add_cancel, if_neg (by omega), hpower]

/-- A quotient is rounded to the nearest number of the format. -/
theorem ofQuotient_of_rounds (hcanonical : (finite negative m e).Canonical) (hnum : 0 < num)
    (hden : 0 < den) (h : Rounds m e (num / den)) :
    ofQuotient negative num den = .finite negative m e := by
  have ⟨hm, hmin, _, _⟩ := hcanonical
  by_cases hlow : e = minExponent ∨ 2 ^ 52 * 2 ^ e ≤ (num : ℚ) / den
  · refine ofQuotient_of_rounds_of_fits hcanonical hnum hden h
      ⟨hmin, h.above.trans_lt ?_, fun hne => hlow.resolve_left hne⟩
    have hm' := cast_le_of_lt_mantissaLimit hm
    exact mul_lt_mul_of_pos_right (by linarith) (two_zpow_pos e)
  · rw [not_or, not_le] at hlow
    exact ofQuotient_of_rounds_of_lt hcanonical hnum hden h hlow.1 hlow.2

end ofQuotient

/-! ### Decimal fractions -/

/-- A decimal fraction lies between the powers of ten that the number of its digits says. -/
theorem decimal_bounds {digits : Nat} (hdigits : 0 < digits) (exponent : Int) :
    (10 : ℚ) ^ ((Nat.toDigits 10 digits).length + exponent - 1) ≤ digits * 10 ^ exponent ∧
      (digits * 10 ^ exponent : ℚ) < 10 ^ ((Nat.toDigits 10 digits).length + exponent) := by
  -- there is a first digit, which is not zero
  obtain ⟨length, hlength⟩ : ∃ length, (Nat.toDigits 10 digits).length = length + 1 :=
    Nat.exists_eq_succ_of_ne_zero Nat.length_toDigits_pos.ne'
  have hlow : 10 ^ length ≤ digits := by
    rcases Nat.eq_zero_or_pos length with rfl | hlength'
    · exact hdigits
    · have := (Nat.length_toDigits_le_iff (by decide) hlength').not.1
        (by rw [hlength]; omega : ¬ (Nat.toDigits 10 digits).length ≤ length)
      exact Nat.not_lt.1 this
  have hhigh : digits < 10 ^ (length + 1) :=
    (Nat.length_toDigits_le_iff (by decide) (Nat.succ_pos _)).1 hlength.le
  have hlow' : ((10 ^ length : Nat) : ℚ) ≤ digits := by exact_mod_cast hlow
  have hhigh' : (digits : ℚ) < ((10 ^ (length + 1) : Nat) : ℚ) := by exact_mod_cast hhigh
  push_cast [← zpow_natCast] at hlow' hhigh'
  have hpos := ten_zpow_pos exponent
  rw [hlength]
  constructor
  · rw [show ((length + 1 : Nat) : Int) + exponent - 1 = length + exponent by push_cast; ring,
      zpow_add₀ (by norm_num)]
    exact mul_le_mul_of_nonneg_right hlow' hpos.le
  · rw [zpow_add₀ (by norm_num)]
    push_cast
    exact mul_lt_mul_of_pos_right hhigh' hpos

/-- A decimal fraction that is neither known to be too large nor known to be too small is rounded as
a quotient. -/
theorem ofDecimal_eq_ofQuotient (negative : Bool) {digits : Nat} {exponent : Int}
    (hdigits : 0 < digits) (hlarge : (Nat.toDigits 10 digits).length + exponent ≤ 310)
    (hsmall : -330 ≤ (Nat.toDigits 10 digits).length + exponent) :
    ∃ num den : Nat, 0 < num ∧ 0 < den ∧ (num / den : ℚ) = digits * 10 ^ exponent ∧
      ofDecimal negative digits exponent = ofQuotient negative num den := by
  rw [ofDecimal.eq_def, if_neg hdigits.ne']
  dsimp only
  rw [if_neg (by omega), if_neg (by omega)]
  -- a power of ten goes to the numerator or to the denominator
  cases exponent with
  | ofNat e =>
    refine ⟨digits * Nat.pow 10 e, 1, Nat.mul_pos hdigits (Nat.pow_pos (by decide)), by decide, ?_,
      rfl⟩
    push_cast [Nat.pow_eq, Int.ofNat_eq_natCast, zpow_natCast]
    rw [div_one]
  | negSucc e =>
    refine ⟨digits, Nat.pow 10 (e + 1), hdigits, Nat.pow_pos (by decide), ?_, rfl⟩
    rw [zpow_negSucc]
    push_cast [Nat.pow_eq]
    rw [div_eq_mul_inv]

section ofDecimal

variable {negative : Bool} {m digits : Nat} {e exponent : Int}

/-- A decimal fraction near a number is not too large, since every number of the format is less than
`10 ^ 309`. -/
theorem length_add_exponent_le (hcanonical : (finite negative m e).Canonical)
    (hdigits : 0 < digits) (h : Rounds m e (digits * 10 ^ exponent)) :
    (Nat.toDigits 10 digits).length + exponent ≤ 310 := by
  obtain ⟨hlimit, -, hmax, -⟩ := hcanonical
  have hlimit' := cast_le_of_lt_mantissaLimit hlimit
  have hpower : (2 : ℚ) ^ e ≤ 2 ^ (971 : Int) := zpow_le_zpow_right₀ (by norm_num) hmax
  have hten : (10 : ℚ) ^ ((Nat.toDigits 10 digits).length + exponent - 1) < 10 ^ (309 : Int) := by
    calc (10 : ℚ) ^ ((Nat.toDigits 10 digits).length + exponent - 1)
        ≤ (m + 1 / 2) * 2 ^ e := (decimal_bounds hdigits exponent).1.trans h.above
      _ ≤ 2 ^ 53 * 2 ^ (971 : Int) :=
        mul_le_mul (by linarith) hpower (two_zpow_pos e).le (by norm_num)
      _ < 10 ^ (309 : Int) := by
        have : (2 ^ 53 * 2 ^ 971 : Nat) < 10 ^ 309 := by decide +kernel
        exact_mod_cast this
  have := (zpow_lt_zpow_iff_right₀ (by norm_num : (1 : ℚ) < 10)).1 hten
  omega

/-- A decimal fraction near a number is not too small, since every number of the format but zero is
greater than `10 ^ (-324)`. -/
theorem le_length_add_exponent (hcanonical : (finite negative m e).Canonical) (hm : 0 < m)
    (hdigits : 0 < digits) (h : Rounds m e (digits * 10 ^ exponent)) :
    -330 ≤ (Nat.toDigits 10 digits).length + exponent := by
  obtain ⟨-, hmin, -, -⟩ := hcanonical
  have hm' : (1 : ℚ) ≤ m := by exact_mod_cast hm
  have hgap := gapBelow_le m e
  have hpower : (2 : ℚ) ^ (-1074 : Int) ≤ 2 ^ e := zpow_le_zpow_right₀ (by norm_num) hmin
  have hten : (10 : ℚ) ^ (-324 : Int) < 10 ^ ((Nat.toDigits 10 digits).length + exponent) := by
    calc (10 : ℚ) ^ (-324 : Int) ≤ 2 ^ (-1075 : Int) := by
          have : (2 ^ 1075 : Nat) ≤ 10 ^ 324 := by decide +kernel
          rw [zpow_neg, zpow_neg]
          exact inv_anti₀ (two_zpow_pos 1075) (by exact_mod_cast this)
      _ = 1 / 2 * 2 ^ (-1074 : Int) := by
        rw [show (-1074 : Int) = -1075 + 1 by norm_num, two_zpow_add_one]
        ring
      _ ≤ (m - gapBelow m e) * 2 ^ e :=
        mul_le_mul (by linarith) hpower (two_zpow_pos _).le (by linarith)
      _ ≤ digits * 10 ^ exponent := h.below
      _ < 10 ^ ((Nat.toDigits 10 digits).length + exponent) := (decimal_bounds hdigits exponent).2
  have := (zpow_lt_zpow_iff_right₀ (by norm_num : (1 : ℚ) < 10)).1 hten
  omega

/-- A decimal fraction is rounded to the nearest number of the format. -/
theorem ofDecimal_of_rounds (hcanonical : (finite negative m e).Canonical) (hm : 0 < m)
    (h : Rounds m e (digits * 10 ^ exponent)) :
    ofDecimal negative digits exponent = .finite negative m e := by
  have hdigits : 0 < digits := by
    have := pos_of_mul_pos_left (h.pos hm) (ten_zpow_pos exponent).le
    exact_mod_cast this
  obtain ⟨num, den, hnum, hden, hvalue, hquotient⟩ :=
    ofDecimal_eq_ofQuotient negative hdigits
      (length_add_exponent_le hcanonical hdigits h)
      (le_length_add_exponent hcanonical hm hdigits h)
  rw [← hvalue] at h
  rw [hquotient, ofQuotient_of_rounds hcanonical hnum hden h]

end ofDecimal

/-- What a decimal fraction is rounded to is a number of the format, unless it is too large. -/
theorem canonical_ofDecimal (negative : Bool) (digits : Nat) (exponent : Int) :
    (ofDecimal negative digits exponent).Canonical := by
  have hzero : (finite negative 0 minExponent).Canonical :=
    ⟨by decide, le_rfl, by decide, .inr rfl⟩
  rcases Nat.eq_zero_or_pos digits with rfl | hdigits
  · exact hzero
  · by_cases hlarge : 310 < (Nat.toDigits 10 digits).length + exponent
    · rw [ofDecimal.eq_def, if_neg hdigits.ne', if_pos hlarge]
      trivial
    · by_cases hsmall : (Nat.toDigits 10 digits).length + exponent < -330
      · rw [ofDecimal.eq_def, if_neg hdigits.ne', if_neg hlarge, if_pos hsmall]
        exact hzero
      · obtain ⟨num, den, hnum, hden, -, hquotient⟩ :=
          ofDecimal_eq_ofQuotient negative hdigits (Int.not_lt.1 hlarge)
            (Int.not_lt.1 hsmall)
        rw [hquotient]
        exact canonical_ofQuotient negative hnum hden

theorem canonical_readMagnitude? {negative : Bool} {body : Text} {x : Double}
    (h : readMagnitude? negative body = some x) : x.Canonical := by
  rw [readMagnitude?] at h
  split_ifs at h with hinfinite hnan
  · cases h
    trivial
  · cases h
    trivial
  · rw [readUnsigned?] at h
    obtain ⟨⟨whole, after⟩, -, h⟩ := Option.bind_eq_some_iff.1 h
    -- with a point or without, the rest is an exponent part
    dsimp only at h
    split at h <;>
    · obtain ⟨⟨fraction, after⟩, -, h⟩ := Option.bind_eq_some_iff.1 h
      dsimp only at h
      split_ifs at h
      obtain ⟨exponent, -, h⟩ := Option.bind_eq_some_iff.1 h
      cases h
      exact canonical_ofDecimal _ _ _

/-- What is read is a number of the format, an infinity or not a number. -/
theorem canonical_read? {source : Text} {x : Double} (h : read? source = some x) :
    x.Canonical := by
  rw [read?] at h
  split at h <;> exact canonical_readMagnitude? h

end Componentry.Numeral.Double
