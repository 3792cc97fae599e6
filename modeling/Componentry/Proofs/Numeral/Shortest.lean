import Componentry.Numeral.Shortest
import Componentry.Proofs.Numeral.Double

/-!
# Shortest digits

The digits that a number is written with are always found, since seventeen of them are enough, and
they are rounded to the number again.

* `contains_iff`: the test on whole numbers as one on quotients;
* `rounds_shortestDigits`: the digits that are found are rounded to the number.
-/

namespace Componentry.Numeral.Double

variable {m : Nat} {e : Int}

/-! ### The interval of a number -/

theorem scaled_fst (num den : Nat) (e : Int) : (scaled num den e).1 = num * (scaled 1 1 e).1 := by
  cases e with
  | ofNat e => exact (Nat.mul_one num).symm
  | negSucc e => exact congrArg (num * ·) (Nat.one_mul _).symm

theorem scaled_snd (num den : Nat) (e : Int) : (scaled num den e).2 = den * (scaled 1 1 e).2 := by
  cases e with
  | ofNat e => exact congrArg (den * ·) (Nat.one_mul _).symm
  | negSucc e => exact (Nat.mul_one den).symm

/-- The interval is that of the quotients that are rounded to the number. -/
theorem roundingInterval_eq (m : Nat) (e : Int) :
    0 < (roundingInterval m e).den ∧
      ((roundingInterval m e).num : ℚ) / (roundingInterval m e).den = m * 2 ^ e ∧
      ((roundingInterval m e).below : ℚ) / (roundingInterval m e).den = gapBelow m e * 2 ^ e ∧
      ((roundingInterval m e).above : ℚ) / (roundingInterval m e).den = 1 / 2 * 2 ^ e ∧
      ((roundingInterval m e).closed ↔ m % 2 = 0) := by
  obtain ⟨hd, hunit⟩ := scaled_eq 1 Nat.one_pos (-e)
  rw [zpow_neg, Nat.cast_one, div_one, one_div, inv_inv] at hunit
  have hd' : ((scaled 1 1 (-e)).2 : ℚ) ≠ 0 := by exact_mod_cast hd.ne'
  rw [div_eq_iff hd'] at hunit
  rw [roundingInterval]
  dsimp only
  rw [scaled_fst, scaled_snd, gapBelow]
  -- the gap below a power of two is half of the one above it
  by_cases hnarrow : m = leastMantissa ∧ minExponent < e
  · simp only [hnarrow, decide_true, Bool.and_self, if_true, and_self]
    push_cast
    rw [hunit]
    refine ⟨by omega, by field_simp, by field_simp, by field_simp; norm_num, decide_eq_true_iff⟩
  · have hfalse : (decide (m = leastMantissa) && decide (minExponent < e)) = false := by
      simpa using hnarrow
    rw [hfalse, if_neg hnarrow]
    simp only [Bool.false_eq_true, if_false]
    push_cast
    rw [hunit]
    refine ⟨by omega, by field_simp, by field_simp, by field_simp, decide_eq_true_iff⟩

/-- The test on whole numbers as one on quotients. -/
theorem contains_iff {i : Interval} (hden : 0 < i.den) (hbelow : i.below ≤ i.num) (digits : Nat)
    (place : Int) :
    i.contains digits place ↔
      if i.closed then
        (i.num : ℚ) / i.den - i.below / i.den ≤ digits * 10 ^ place ∧
          (digits * 10 ^ place : ℚ) ≤ i.num / i.den + i.above / i.den
      else
        (i.num : ℚ) / i.den - i.below / i.den < digits * 10 ^ place ∧
          (digits * 10 ^ place : ℚ) < i.num / i.den + i.above / i.den := by
  -- the decimal fraction as a quotient with a denominator of its own
  obtain ⟨x, d, hd, hvalue, hcontains⟩ : ∃ x d : Nat, 0 < d ∧
      (digits * 10 ^ place : ℚ) = x / d / i.den ∧
      i.contains digits place =
        if i.closed then
          decide ((i.num - i.below) * d ≤ x) && decide (x ≤ (i.num + i.above) * d)
        else decide ((i.num - i.below) * d < x) && decide (x < (i.num + i.above) * d) := by
    have hden' : (i.den : ℚ) ≠ 0 := by exact_mod_cast hden.ne'
    cases place with
    | ofNat p =>
      refine ⟨digits * Nat.pow 10 p * i.den, 1, Nat.one_pos, ?_, rfl⟩
      push_cast [Nat.pow_eq, Int.ofNat_eq_natCast, zpow_natCast]
      field_simp
    | negSucc p =>
      refine ⟨digits * i.den, Nat.pow 10 (p + 1), Nat.pow_pos (by decide), ?_, rfl⟩
      rw [zpow_negSucc]
      push_cast [Nat.pow_eq]
      field_simp
  have hden' : (0 : ℚ) < i.den := by exact_mod_cast hden
  have hd' : (0 : ℚ) < d := by exact_mod_cast hd
  have hlow : ((i.num - i.below : Nat) : ℚ) = i.num - i.below := Nat.cast_sub hbelow
  rw [hcontains, hvalue, ← sub_div, ← add_div]
  rw [div_le_div_iff_of_pos_right hden', div_le_div_iff_of_pos_right hden',
    div_lt_div_iff_of_pos_right hden', div_lt_div_iff_of_pos_right hden', le_div_iff₀ hd',
    div_le_iff₀ hd', lt_div_iff₀ hd', div_lt_iff₀ hd', ← hlow]
  split <;>
  · rw [Bool.and_eq_true, decide_eq_true_iff, decide_eq_true_iff]
    exact_mod_cast Iff.rfl

theorem below_le_num (hm : 0 < m) :
    (roundingInterval m e).below ≤ (roundingInterval m e).num := by
  obtain ⟨hden, hnum, hbelow, -⟩ := roundingInterval_eq m e
  have hden' : (0 : ℚ) < (roundingInterval m e).den := by exact_mod_cast hden
  have hm' : (1 : ℚ) ≤ m := by exact_mod_cast hm
  have hle : ((roundingInterval m e).below : ℚ) / (roundingInterval m e).den ≤
      (roundingInterval m e).num / (roundingInterval m e).den := by
    rw [hnum, hbelow]
    exact mul_le_mul_of_nonneg_right ((gapBelow_le m e).trans (by linarith)) (two_zpow_pos e).le
  rw [div_le_div_iff_of_pos_right hden'] at hle
  exact_mod_cast hle

/-- What lies in the interval of a number is rounded to it. -/
theorem rounds_of_contains (hm : 0 < m) {digits : Nat} {place : Int}
    (h : (roundingInterval m e).contains digits place) : Rounds m e (digits * 10 ^ place) := by
  obtain ⟨hden, hnum, hbelow, habove, hclosed⟩ := roundingInterval_eq m e
  rw [contains_iff hden (below_le_num hm), hnum, hbelow, habove, ← sub_mul, ← add_mul] at h
  split at h
  next hc =>
    refine ⟨h.1, h.2, fun hodd => ?_⟩
    rw [hclosed] at hc
    omega
  next => exact ⟨h.1.le, h.2.le, fun _ => h⟩

/-! ### Finding digits -/

theorem contains_of_nearest? {i : Interval} {place : Int} {digits : Nat}
    (h : i.nearest? place = some digits) : i.contains digits place := by
  obtain ⟨near, far, htests⟩ : ∃ near far, i.nearest? place =
      if i.contains near place then some near
      else if i.contains far place then some far
      else none := ⟨_, _, rfl⟩
  rw [htests] at h
  -- whichever candidate is taken has been tested
  split_ifs at h with hnear hfar <;> cases h
  · exact hnear
  · exact hfar

/-- A place has digits in the interval if its unit is less than the gaps around the number. -/
theorem isSome_nearest? (hm : 0 < m) {place : Int}
    (h : (10 : ℚ) ^ place < 2 * gapBelow m e * 2 ^ e) :
    ((roundingInterval m e).nearest? place).isSome := by
  obtain ⟨hden, hnum, hbelow, habove, -⟩ := roundingInterval_eq m e
  have hpos := ten_zpow_pos place
  -- the number in units of the place
  obtain ⟨n, d, hd, hquotient, hnearest⟩ : ∃ n d : Nat, 0 < d ∧
      (n : ℚ) / d = m * 2 ^ e / 10 ^ place ∧
      ((roundingInterval m e).contains (roundedQuotient n d) place →
        ((roundingInterval m e).nearest? place).isSome) := by
    rw [← hnum]
    cases place with
    | ofNat p =>
      refine ⟨(roundingInterval m e).num, (roundingInterval m e).den * Nat.pow 10 p,
        Nat.mul_pos hden (Nat.pow_pos (by decide)), ?_, fun hcontains => ?_⟩
      · push_cast [Nat.pow_eq, Int.ofNat_eq_natCast, zpow_natCast]
        rw [div_div]
      · rw [Interval.nearest?, if_pos hcontains]
        rfl
    | negSucc p =>
      refine ⟨(roundingInterval m e).num * Nat.pow 10 (p + 1), (roundingInterval m e).den, hden, ?_,
        fun hcontains => ?_⟩
      · rw [zpow_negSucc]
        push_cast [Nat.pow_eq]
        rw [div_inv_eq_mul, mul_div_right_comm]
      · rw [Interval.nearest?, if_pos hcontains]
        rfl
  obtain ⟨hlow, hhigh⟩ := roundedQuotient_near (n := n) hd
  rw [hquotient] at hlow hhigh
  rw [le_div_iff₀ hpos] at hlow
  rw [div_le_iff₀ hpos] at hhigh
  have hgap := mul_le_mul_of_nonneg_right (gapBelow_le m e) (two_zpow_pos e).le
  refine hnearest ?_
  rw [contains_iff hden (below_le_num hm), hnum, hbelow, habove]
  split
  · constructor <;> linarith
  · constructor <;> linarith

/-- Multiplying by ten reaches a number if it does so in the steps that are allowed. -/
theorem le_mul_tenfolds {den fuel num : Nat} (h : den ≤ num * 10 ^ fuel) :
    den ≤ num * 10 ^ tenfolds den fuel num := by
  induction fuel generalizing num with
  | zero => exact h
  | succ fuel ih =>
    rw [tenfolds]
    split
    next hreached => rwa [Nat.pow_zero, Nat.mul_one]
    next =>
      rw [Nat.pow_succ', ← Nat.mul_assoc, Nat.mul_comm num] at h ⊢
      exact ih h

/-- The first significant digit does not count more than the whole. -/
theorem ten_zpow_decimalExponent_le {num den : Nat} (hden : 0 < den)
    (h : den ≤ num * 10 ^ 330) : (10 : ℚ) ^ decimalExponent num den ≤ num / den := by
  have hden' : (0 : ℚ) < den := by exact_mod_cast hden
  rw [decimalExponent]
  split
  next hle =>
    have hfloor : 0 < num / den := Nat.div_pos hle hden
    have hbound := (decimal_bounds hfloor 0).1
    rw [add_zero, zpow_zero, mul_one] at hbound
    refine hbound.trans ((le_div_iff₀ hden').2 ?_)
    exact_mod_cast Nat.div_mul_le_self num den
  next =>
    rw [zpow_neg, inv_eq_one_div, div_le_div_iff₀ (ten_zpow_pos _) hden', one_mul, zpow_natCast]
    exact_mod_cast le_mul_tenfolds h

/-- The digits that are found lie in the interval. -/
theorem contains_shortest {i : Interval} {top : Int} {fuel count : Nat}
    (h : ∃ k < fuel, (i.nearest? (top - (count + k : Nat))).isSome) :
    i.contains (i.shortest top fuel count).1 (i.shortest top fuel count).2 := by
  induction fuel generalizing count with
  | zero =>
    obtain ⟨k, hk, -⟩ := h
    cases hk
  | succ fuel ih =>
    rw [Interval.shortest]
    split
    next digits hfound => exact contains_of_nearest? hfound
    -- the place is not the first one, so that it is found later
    next hnone =>
      obtain ⟨k, hk, hsome⟩ := h
      refine ih ?_
      cases k with
      | zero =>
        rw [Nat.add_zero, hnone] at hsome
        cases hsome
      | succ k => exact ⟨k, Nat.lt_of_succ_lt_succ hk, by rwa [Nat.add_right_comm]⟩

/-- Every number is great enough for its first digit to be found. -/
theorem den_le_num_mul (hmin : minExponent ≤ e) (hm : 0 < m) :
    (roundingInterval m e).den ≤ (roundingInterval m e).num * 10 ^ 330 := by
  obtain ⟨hden, hnum, -⟩ := roundingInterval_eq m e
  have hden' : (0 : ℚ) < (roundingInterval m e).den := by exact_mod_cast hden
  have hm' : (1 : ℚ) ≤ m := by exact_mod_cast hm
  have hpower : (2 : ℚ) ^ (-1074 : Int) ≤ 2 ^ e := zpow_le_zpow_right₀ (by norm_num) hmin
  have hten : (1 : ℚ) ≤ 2 ^ (-1074 : Int) * 10 ^ 330 := by
    have : (2 ^ 1074 : Nat) ≤ 10 ^ 330 := by decide +kernel
    rw [zpow_neg, inv_mul_eq_div, le_div_iff₀ (two_zpow_pos 1074), one_mul]
    exact_mod_cast this
  have hle : (1 : ℚ) ≤ m * 2 ^ e * 10 ^ 330 :=
    calc (1 : ℚ) ≤ 2 ^ (-1074 : Int) * 10 ^ 330 := hten
      _ ≤ 2 ^ e * 10 ^ 330 := mul_le_mul_of_nonneg_right hpower (by positivity)
      _ ≤ m * 2 ^ e * 10 ^ 330 :=
        mul_le_mul_of_nonneg_right (le_mul_of_one_le_left (two_zpow_pos e).le hm') (by positivity)
  rw [← hnum, div_mul_eq_mul_div, le_div_iff₀ hden', one_mul] at hle
  exact_mod_cast hle

/-- Sixteen places after the first digit, the unit is less than the gaps around a number. -/
theorem lt_gapBelow_mul (hlimit : m < mantissaLimit) : (m : ℚ) < 2 * gapBelow m e * 10 ^ 16 := by
  have hlimit' : (m : ℚ) < 2 ^ 53 := by exact_mod_cast hlimit
  rw [gapBelow]
  split
  next hnarrow =>
    rw [hnarrow.1, show (leastMantissa : ℚ) = 2 ^ 52 by norm_num [leastMantissa]]
    norm_num
  next => linarith

/-- The digits of a number are rounded to it. -/
theorem rounds_shortestDigits {negative : Bool} (hcanonical : (finite negative m e).Canonical)
    (hm : 0 < m) :
    Rounds m e ((shortestDigits m e).1 * 10 ^ (shortestDigits m e).2) := by
  obtain ⟨hlimit, hmin, -, -⟩ := hcanonical
  obtain ⟨hden, hnum, -⟩ := roundingInterval_eq m e
  have htop := ten_zpow_decimalExponent_le hden (den_le_num_mul hmin hm)
  rw [hnum] at htop
  rw [shortestDigits]
  -- seventeen digits are enough
  refine rounds_of_contains hm (contains_shortest ⟨16, by decide, isSome_nearest? hm ?_⟩)
  rw [zpow_sub₀ (by norm_num), div_lt_iff₀ (ten_zpow_pos _)]
  refine htop.trans_lt ?_
  calc (m : ℚ) * 2 ^ e < 2 * gapBelow m e * 10 ^ 16 * 2 ^ e :=
        mul_lt_mul_of_pos_right (lt_gapBelow_mul hlimit) (two_zpow_pos e)
    _ = 2 * gapBelow m e * 2 ^ e * 10 ^ ((0 + 16 : Nat) : Int) := by
      push_cast
      norm_num
      ring

/-- A number other than zero has digits other than zero. -/
theorem shortestDigits_pos {negative : Bool} (hcanonical : (finite negative m e).Canonical)
    (hm : 0 < m) : 0 < (shortestDigits m e).1 := by
  have := pos_of_mul_pos_left (rounds_shortestDigits hcanonical hm |>.pos hm)
    (ten_zpow_pos (shortestDigits m e).2).le
  exact_mod_cast this

end Componentry.Numeral.Double
