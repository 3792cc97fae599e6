import Componentry.Proofs.Json.Literal
import Componentry.Proofs.Json.Number
import Componentry.Proofs.State.Inference

/-!
# Initial values read back

The literal of a value that a field starts with is read as that value again. The numbers among them
are those that controls write, so that they are finite and no integer among them is too long.

* `Initial.WellFormed`: what holds of the values that fields start with;
* `Initial.readValue_literal`: their literals are read back.
-/

namespace Componentry

open Numeral

namespace Initial

/-- A number is one that a text can write: an integer with not too many digits, or a finite number
of the binary format. -/
def WellFormed : Initial → Prop
  | .integer n => (Text.ofNat n.natAbs).length ≤ maxDigits
  | .decimal x => x.Canonical ∧ ∃ negative m e, x = .finite negative m e
  | _ => True

/-- The integer part of a number is not greater than its mantissa with as many powers of two as the
exponent says. -/
theorem natAbs_truncate?_le {negative : Bool} {m : Nat} {e n : Int}
    (h : (Double.finite negative m e).truncate? = some n) : n.natAbs ≤ m * 2 ^ e.toNat := by
  have hsign : ∀ x : Nat, (if negative then -(x : Int) else (x : Int)).natAbs = x := by
    intro x
    cases negative
    · exact Int.natAbs_natCast x
    · exact (Int.natAbs_neg _).trans (Int.natAbs_natCast x)
  cases e with
  | ofNat k =>
    cases h
    exact (hsign (m * Nat.pow 2 k)).le
  | negSucc k =>
    cases h
    -- a negative exponent takes digits from the mantissa
    rw [hsign (m / Nat.pow 2 (k + 1))]
    exact (Nat.div_le_self _ _).trans (Nat.le_mul_of_pos_right _ (Nat.pow_pos (by decide)))

/-- The integer part of a number of the format has not too many digits. -/
theorem length_ofNat_truncate? {negative : Bool} {m : Nat} {e n : Int}
    (hcanonical : (Double.finite negative m e).Canonical)
    (h : (Double.finite negative m e).truncate? = some n) :
    (Text.ofNat n.natAbs).length ≤ maxDigits := by
  obtain ⟨hlimit, -, hmax, -⟩ := hcanonical
  have hexponent : e.toNat ≤ 971 := Int.toNat_le.2 hmax
  -- the greatest number of the format has about three hundred digits
  have hbound : n.natAbs < 2 ^ (53 + e.toNat) := by
    rw [Nat.pow_add]
    exact (natAbs_truncate?_le h).trans_lt
      (Nat.mul_lt_mul_of_pos_right hlimit (Nat.pow_pos (by decide)))
  refine (Nat.length_toDigits_le_iff (by decide) (by decide)).2 (hbound.trans_le ?_)
  calc 2 ^ (53 + e.toNat) ≤ 10 ^ (53 + e.toNat) := Nat.pow_le_pow_left (by decide) _
    _ ≤ 10 ^ maxDigits := Nat.pow_le_pow_right (by decide) (by rw [maxDigits]; omega)

theorem wellFormed_ofNumeral (t : Text) : (ofNumeral t).WellFormed := by
  rw [ofNumeral]
  split
  next negative m e hread =>
    have hcanonical := Double.canonical_read? hread
    -- a number without a fraction becomes an integer
    dsimp only
    split
    next n hn =>
      rw [Double.toInt?] at hn
      split at hn
      · exact length_ofNat_truncate? hcanonical hn
      · cases hn
    next => exact ⟨hcanonical, _, _, _, rfl⟩
  next => exact (by decide : (Text.ofNat 0).length ≤ maxDigits)

/-- The value of a control is well-formed. -/
theorem wellFormed_initial (node : Node) : (Control.initial node).WellFormed := by
  have hzero : (Initial.integer 0).WellFormed := (by decide : (Text.ofNat 0).length ≤ maxDigits)
  rw [Control.initial]
  split
  · dsimp only
    split
    · trivial
    · split
      · split
        · exact wellFormed_ofNumeral _
        · exact hzero
      · trivial
  · split <;> trivial

/-! ### Literals -/

/-- The value as a JSON value. -/
def toJson : Initial → Json
  | .flag value => .bool value
  | .integer n => .int n
  | .decimal x => .float x
  | .text t => .string t

/-- What starts with a numeral is a number. -/
theorem readValue_eq_readAtom {t : Text} (hne : t ≠ []) (h : ∀ c ∈ t, Written.IsNumeralChar c)
    (rest : Text) : Json.readValue 0 1 (t ++ rest) = Json.readAtom (t ++ rest) := by
  obtain ⟨c, more, rfl⟩ := List.exists_cons_of_ne_nil hne
  have hfirst : ∀ d, ¬ Written.IsNumeralChar d → c ≠ d := by
    rintro d hd rfl
    exact hd (h c List.mem_cons_self)
  have hquote : c ≠ '"' := hfirst _ (by decide)
  have hbracket : c ≠ '[' := hfirst _ (by decide)
  have hbrace : c ≠ '{' := hfirst _ (by decide)
  simp [Json.readValue, hquote, hbracket, hbrace]

/-- The literal of a value is read as the value, up to the comma that follows it. -/
theorem readValue_literal {initial : Initial} (h : initial.WellFormed) (rest : Text) :
    Json.readValue 0 1 (initial.literal ++ ',' :: rest) = .ok (initial.toJson, ',' :: rest) := by
  have hends : Json.EndsNumber (',' :: rest) := by
    intro c hc
    cases hc
    decide
  cases initial with
  | flag value => cases value <;> rfl
  | integer n =>
    rw [literal, readValue_eq_readAtom (Text.ofInt_ne_nil n) Written.isNumeralChar_of_mem_ofInt,
      Json.readAtom_ofInt h hends]
    rfl
  | decimal x =>
    obtain ⟨hcanonical, negative, m, e, rfl⟩ := h
    rw [literal, readValue_eq_readAtom (Double.toText_ne_nil hcanonical)
      (Double.isNumeralChar_of_mem_toText hcanonical), Json.readAtom_toText hcanonical hends]
    rfl
  | text t =>
    rw [literal, Json.literal, List.cons_append, List.cons_append, List.append_assoc,
      List.singleton_append, Json.readValue, Json.readLiteral_literal]
    rfl

/-- The literal of a value stands on one line. -/
theorem newline_not_mem_literal {initial : Initial} (h : initial.WellFormed) :
    '\n' ∉ initial.literal := by
  have hnumeral : ∀ t : Text, (∀ c ∈ t, Written.IsNumeralChar c) → '\n' ∉ t :=
    fun t ht hmem => absurd (ht _ hmem) (by decide)
  cases initial with
  | flag value => cases value <;> decide
  | integer n => exact hnumeral _ Written.isNumeralChar_of_mem_ofInt
  | decimal x =>
    obtain ⟨hcanonical, negative, m, e, rfl⟩ := h
    exact hnumeral _ (Double.isNumeralChar_of_mem_toText hcanonical)
  | text t => exact Json.newline_not_mem_literal t

end Initial

end Componentry
