import Componentry.Json.Literal
import Componentry.Json.Reader
import Mathlib.Tactic.SplitIfs

/-!
# String literals read back

A text that is written as a literal is read back as it is, whatever characters it has, and what
follows the literal is left:

* `readLiteral_literal`: the law for the alphabet of Unicode;
* `newline_not_mem_literal`: a literal stands on one line.
-/

namespace Componentry.Json

/-- The control characters have escapes of four hexadecimal digits. -/
theorem unitEscape_eq : ∀ n < 0x20,
    unitEscape n = ['\\', 'u', '0', '0', Nat.digitChar (n / 16), Nat.digitChar (n % 16)] ∧
      unit? '0' '0' (Nat.digitChar (n / 16)) (Nat.digitChar (n % 16)) = some n := by
  decide

/-- A short escape is a backslash and a character other than `u`. -/
theorem shortEscape?_eq_some {c : Char} {escape : Text} (h : shortEscape? c = some escape) :
    ∃ mark, escape = ['\\', mark] ∧ mark ≠ 'u' ∧ escaped? mark = some c := by
  unfold shortEscape? at h
  split_ifs at h with h1 h2 h3 h4 h5 h6 h7
  all_goals
    cases h
    subst c
  · exact ⟨'"', rfl, by decide, rfl⟩
  · exact ⟨'\\', rfl, by decide, rfl⟩
  · exact ⟨'n', rfl, by decide, rfl⟩
  · exact ⟨'r', rfl, by decide, rfl⟩
  · exact ⟨'t', rfl, by decide, rfl⟩
  · exact ⟨'b', rfl, by decide, rfl⟩
  · exact ⟨'f', rfl, by decide, rfl⟩

/-- A character inside a literal is read back. What follows it is not empty, since the closing
quotation mark is still to come. -/
theorem literalBody_literalChar (whole : Text) (c d : Char) (rest : Text) :
    literalBody whole .none (literalChar c ++ d :: rest) =
      (literalBody whole .none (d :: rest)).map fun (text, after) => (c :: text, after) := by
  rw [literalChar]
  cases hescape : shortEscape? c with
  | some escape =>
    obtain ⟨mark, rfl, hmark, hc⟩ := shortEscape?_eq_some hescape
    simp [literalBody, hmark, hc, Lead.flush]
  | none =>
    have hquote : c ≠ '"' := by
      rintro rfl
      cases hescape
    have hbackslash : c ≠ '\\' := by
      rintro rfl
      cases hescape
    dsimp only
    split
    next hcontrol =>
      obtain ⟨hunit, hvalue⟩ := unitEscape_eq c.toNat hcontrol
      -- a control character is not half of a character of two units
      have hwhole : (decide (0xD800 ≤ c.toNat) && decide (c.toNat < 0xDC00)) = false := by
        simp; omega
      simp [hunit, literalBody, hvalue, Char.ofNat_toNat, hwhole]
    next hplain => simp [literalBody, hbackslash, hplain, Lead.flush]

/-- The characters of a literal are read up to its closing quotation mark. -/
theorem literalBody_flatMap (whole t rest : Text) :
    literalBody whole .none (t.flatMap literalChar ++ '"' :: rest) = .ok (t, rest) := by
  induction t with
  | nil => rfl
  | cons c t ih =>
    -- what follows the first character starts with some character
    obtain ⟨d, more, hmore⟩ : ∃ d more, t.flatMap literalChar ++ '"' :: rest = d :: more :=
      List.exists_cons_of_ne_nil (by simp)
    rw [List.flatMap_cons, List.append_assoc, hmore, literalBody_literalChar, ← hmore, ih]
    rfl

/-- A literal is read back as the text that it stands for. -/
theorem readLiteral_literal (t rest : Text) :
    readLiteral (t.flatMap literalChar ++ '"' :: rest) = .ok (t, rest) :=
  literalBody_flatMap _ t rest

/-- A line feed is written by its escape. -/
theorem newline_not_mem_literal (t : Text) : '\n' ∉ literal t := by
  have hchar : ∀ c, '\n' ∉ literalChar c := by
    intro c hmem
    rw [literalChar] at hmem
    cases hescape : shortEscape? c with
    | some escape =>
      obtain ⟨mark, rfl, -, hc⟩ := shortEscape?_eq_some hescape
      rw [hescape] at hmem
      simp only [List.mem_cons, List.not_mem_nil, or_false] at hmem
      rcases hmem with hmem | rfl
      · cases hmem
      · cases hc
    | none =>
      rw [hescape] at hmem
      dsimp only at hmem
      split at hmem
      -- a control character is written with hexadecimal digits
      next hcontrol =>
        rw [(unitEscape_eq _ hcontrol).1] at hmem
        revert hmem
        exact (by decide : ∀ n < 0x20, '\n' ∉
          ['\\', 'u', '0', '0', Nat.digitChar (n / 16), Nat.digitChar (n % 16)]) _ hcontrol
      next =>
        rw [List.mem_singleton] at hmem
        subst hmem
        cases hescape
  simp [literal, hchar]

end Componentry.Json
