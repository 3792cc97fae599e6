import Componentry.Numeral.Integer
import Componentry.Proofs.Outcome
import Componentry.Proofs.Text
import Componentry.Template.Fragment
import Mathlib.Data.List.Induction
import Mathlib.Data.Nat.Digits.Defs

/-!
# Integers that are refused

Digits are read as the integer that they write, unless there are too many of them.

* `Numeral.readNatural_eq`: ASCII digits as an unsigned integer;
* `Numeral.decimalValue`: the number that digits of any script write;
* `Template.readInteger_eq`: the value of an attribute that takes an integer.
-/

namespace Componentry

namespace Numeral

/-- Digits are read up to what is neither a digit nor an underscore. -/
theorem digitsFrom?_append {grouping : Bool} {digits rest : Text} (h : ∀ c ∈ digits, c.isDigit)
    (hrest : ∀ c ∈ rest.head?, ¬ c.isDigit ∧ c ≠ '_') :
    digitsFrom? grouping (digits ++ rest) = some (digits, rest) := by
  induction digits generalizing grouping with
  | nil =>
    cases rest with
    | nil => rfl
    | cons c rest =>
      obtain ⟨hc, hunderscore⟩ := hrest c rfl
      rw [List.nil_append, digitsFrom?.eq_def]
      split
      next heq => cases heq
      next heq =>
        cases heq
        exact absurd rfl hunderscore
      next heq =>
        cases heq
        exact absurd rfl hunderscore
      next heq =>
        cases heq
        rw [if_neg hc]
  | cons c digits ih =>
    rw [List.forall_mem_cons] at h
    have hc : c ≠ '_' := by
      rintro rfl
      cases h.1
    -- no digit is an underscore, so none of them groups the others
    rw [List.cons_append, digitsFrom?.eq_def]
    split
    next heq => cases heq
    next heq => exact absurd (List.cons.inj heq).1 hc
    next heq => exact absurd (List.cons.inj heq).1 hc
    next d more _ _ heq =>
      obtain ⟨rfl, rfl⟩ := List.cons.inj heq
      rw [if_pos h.1, ih h.2]
      rfl

theorem digitsFrom?_eq {grouping : Bool} {digits : Text} (h : ∀ c ∈ digits, c.isDigit) :
    digitsFrom? grouping digits = some (digits, []) := by
  have happend : digitsFrom? grouping (digits ++ []) = some (digits, []) :=
    digitsFrom?_append h fun _ hc => nomatch hc
  rwa [List.append_nil] at happend

/-- Digits are an unsigned integer unless there are too many of them. -/
theorem readNatural_eq {source digits : Text} (h : ∀ c ∈ digits, c.isDigit) (hne : digits ≠ []) :
    readNatural source digits =
      if maxDigits < digits.length then .error (.tooLong digits.length)
      else .ok (digitsValue digits) := by
  have hsome : groupedDigits? digits = some (digits, []) := digitsFrom?_eq h
  rw [readNatural, hsome]
  simp [List.isEmpty_eq_false_iff.2 hne]

theorem exists_readNatural_iff {source digits : Text} (h : ∀ c ∈ digits, c.isDigit)
    (hne : digits ≠ []) :
    (∃ n, readNatural source digits = .ok n) ↔ digits.length ≤ maxDigits := by
  rw [readNatural_eq h hne, ← Nat.not_lt]
  by_cases hlong : maxDigits < digits.length <;> simp [hlong]

/-- A digit as an ASCII digit; any other character is left as it is. -/
def plainChar (c : Char) : Char :=
  match digitValue? c with
  | some d => Nat.digitChar d
  | none => c

theorem lt_ten_of_digitValue? {c : Char} {d : Nat} (h : digitValue? c = some d) : d < 10 := by
  rw [digitValue?, Option.map_eq_some_iff] at h
  obtain ⟨first, hfirst, rfl⟩ := h
  have hbounds := List.find?_some hfirst
  simp only [Bool.and_eq_true, decide_eq_true_eq] at hbounds
  omega

theorem isDigit_plainChar {c : Char} (h : isDecimalDigit c) : (plainChar c).isDigit := by
  have hdigit : ∀ d < 10, (Nat.digitChar d).isDigit := by decide
  obtain ⟨d, hd⟩ := Option.isSome_iff_exists.1 h
  rw [plainChar, hd]
  exact hdigit d (lt_ten_of_digitValue? hd)

/-- The number that decimal digits of any script write, the most significant one first. -/
def decimalValue (digits : Text) : Nat := Nat.ofDigits 10 (digits.reverse.filterMap digitValue?)

/-- Digits of any script have the value of the ASCII digits that they are read as. -/
theorem digitsValue_map_plainChar {digits : Text} (h : ∀ c ∈ digits, isDecimalDigit c) :
    digitsValue (digits.map plainChar) = decimalValue digits := by
  have hdigit : ∀ d < 10, (Nat.digitChar d).toNat - '0'.toNat = d := by decide
  induction digits using List.reverseRecOn with
  | nil => rfl
  | append_singleton digits c ih =>
    rw [List.forall_mem_append, List.forall_mem_singleton] at h
    obtain ⟨d, hd⟩ := Option.isSome_iff_exists.1 h.2
    have hlast : (plainChar c).toNat - '0'.toNat = d := by
      rw [plainChar, hd]
      exact hdigit d (lt_ten_of_digitValue? hd)
    -- the last digit counts once, and the digits before it ten times
    have hvalue : decimalValue (digits ++ [c]) = d + 10 * decimalValue digits := by
      rw [decimalValue, List.reverse_append, List.reverse_singleton, List.singleton_append,
        List.filterMap_cons_some hd, Nat.ofDigits_cons]
      rfl
    rw [hvalue, ← ih h.1, List.map_append, digitsValue, List.foldl_append, List.map_singleton,
      List.foldl_cons, List.foldl_nil, hlast, Nat.add_comm]
    rfl

/-- Digits of any script are read as the number that they write, whatever sign it gets, unless there
are too many of them. -/
theorem map_readNatural_eq {source digits : Text} (sign : Int → Int)
    (h : !digits.isEmpty && digits.all isDecimalDigit) :
    ((readNatural source (digits.map plainChar) : Except IntegerError Int)).map sign =
      if maxDigits < digits.length then .error (.tooLong digits.length)
      else .ok (sign (decimalValue digits)) := by
  rw [Bool.and_eq_true, List.all_eq_true] at h
  -- every digit has become an ASCII digit
  have hall : ∀ c ∈ digits.map plainChar, c.isDigit := by
    intro c hc
    obtain ⟨d, hd, rfl⟩ := List.mem_map.1 hc
    exact isDigit_plainChar (h.2 d hd)
  have hne : digits.map plainChar ≠ [] := by
    intro hnil
    rw [List.map_eq_nil_iff] at hnil
    rw [hnil] at h
    cases h.1
  rw [readNatural_eq hall hne, List.length_map, digitsValue_map_plainChar h.2]
  split <;> rfl

/-- A text that neither starts nor ends with a blank keeps its length when it is made plain. -/
theorem plain_eq_map {t : Text} (hstart : ∀ c rest, t = c :: rest → ¬ isBlank c)
    (hend : ∀ c rest, t = rest ++ [c] → ¬ isBlank c) : plain t = t.map plainChar := by
  -- only blanks are padding
  have hpadding : ∀ {c}, ¬ isBlank c → ¬ isPadding c := by
    intro c hc hpad
    rw [isPadding, Bool.and_eq_true] at hpad
    exact hc hpad.1
  have hfirst : t.dropWhile isPadding = t := by
    cases t with
    | nil => rfl
    | cons c rest => rw [List.dropWhile_cons_of_neg (hpadding (hstart c rest rfl))]
  have hlast : t.reverse.dropWhile isPadding = t.reverse := by
    cases hrev : t.reverse with
    | nil => rfl
    | cons c rest =>
      rw [List.reverse_eq_cons_iff] at hrev
      rw [List.dropWhile_cons_of_neg (hpadding (hend c rest.reverse hrev))]
  rw [plain, hfirst, hlast, List.reverse_reverse]
  rfl

/-- A text is plain already if it has neither blanks nor digits of other scripts. -/
theorem plain_eq_of_forall {t : Text} (h : ∀ c ∈ t, ¬ isBlank c ∧ plainChar c = c) :
    plain t = t := by
  have hmap : plain t = t.map plainChar := by
    refine plain_eq_map ?_ ?_
    · rintro c rest rfl
      exact (h c List.mem_cons_self).1
    · rintro c rest rfl
      exact (h c (List.mem_append_right _ (List.mem_singleton_self c))).1
  rw [hmap]
  exact (List.map_congr_left fun c hc => (h c hc).2).trans (List.map_id t)

end Numeral

namespace Template

open Numeral

/-- The number of digits of an integer that perhaps starts with a minus sign. -/
def digitCount : Text → Nat
  | '-' :: digits => digits.length
  | digits => digits.length

/-- The value of an attribute is an integer of too many digits. -/
def IsOverlong (value : Text) : Prop :=
  isInteger (Text.trim value) ∧ maxDigits < digitCount (Text.trim value)

/-- The integer that decimal digits of any script write, perhaps after a minus sign. -/
def integerValue : Text → Int
  | '-' :: digits => -(decimalValue digits : Int)
  | digits => decimalValue digits

theorem readInteger_eq_of_plain {t : Text} (hplain : plain t = t.map plainChar)
    (h : isInteger t) :
    readInteger t =
      if maxDigits < digitCount t then .error (.tooLong (digitCount t))
      else .ok (integerValue t) := by
  rw [readInteger, hplain]
  rw [isInteger.eq_def] at h
  split at h
  next digits => exact map_readNatural_eq (fun n => -n) h
  next hminus =>
    have hcount : digitCount t = t.length := by
      rw [digitCount.eq_def]
      split
      next => exact absurd rfl (hminus _)
      next => rfl
    have hvalue : integerValue t = decimalValue t := by
      rw [integerValue.eq_def]
      split
      next => exact absurd rfl (hminus _)
      next => rfl
    rw [hcount, hvalue]
    cases t with
    | nil => cases h
    | cons c rest =>
      -- a digit is no sign
      have hc : (plainChar c).isDigit := by
        rw [Bool.and_eq_true, List.all_cons, Bool.and_eq_true] at h
        exact isDigit_plainChar h.2.1
      rw [List.map_cons]
      split
      next heq =>
        rw [(List.cons.inj heq).1] at hc
        cases hc
      next heq =>
        rw [(List.cons.inj heq).1] at hc
        cases hc
      next => exact map_readNatural_eq (fun n => n) h

/-- The value of an attribute that is an integer is read as the integer that it writes, unless it
has too many digits. -/
theorem readInteger_eq {value : Text} (h : isInteger (Text.trim value)) :
    readInteger (Text.trim value) =
      if maxDigits < digitCount (Text.trim value) then
        .error (.tooLong (digitCount (Text.trim value)))
      else .ok (integerValue (Text.trim value)) :=
  readInteger_eq_of_plain (plain_eq_map (fun _ _ => Text.not_isBlank_of_trim_eq_cons)
    fun _ _ => Text.not_isBlank_of_trim_eq_concat) h

end Template

end Componentry
