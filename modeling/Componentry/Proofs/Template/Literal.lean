import Componentry.Proofs.Text
import Componentry.Template.Escape

/-!
# Template literals read back

A text inside a template literal is read character by character; a backslash is read together with
the character behind it, which then stands for itself. What `escapeLiteral` writes is read back as
the text that it was given, and no character of it ends the literal or opens an expression.

* `escapeLiteral_eq_replace`: escaping is three replacements, one after the other;
* `exists_read_escapeLiteral`: what is read back.
-/

namespace Componentry.Template

/-- A character inside a template literal. -/
inductive LiteralChar
  /-- A character with no backslash before it. -/
  | plain (c : Char)
  /-- A character behind a backslash. -/
  | escaped (c : Char)
  deriving DecidableEq, Repr

namespace LiteralChar

/-- The character that is meant. -/
def value : LiteralChar → Char
  | plain c => c
  | escaped c => c

/-- The characters of a text inside a literal, if no backslash is left alone at its end. -/
def read? : Text → Option (List LiteralChar)
  | [] => some []
  | ['\\'] => none
  | '\\' :: c :: rest => (read? rest).map (escaped c :: ·)
  | c :: rest => (read? rest).map (plain c :: ·)

theorem read?_escaped (c : Char) (rest : Text) :
    read? ('\\' :: c :: rest) = (read? rest).map (escaped c :: ·) := rfl

theorem read?_plain {c : Char} (h : c ≠ '\\') (rest : Text) :
    read? (c :: rest) = (read? rest).map (plain c :: ·) := by
  rw [read?]
  · exact fun hc => absurd hc h
  · exact fun _ _ hc => absurd hc h

/-- No character leaves the literal: none is an accent that ends it, and no dollar sign opens an
expression. -/
structure Inside (chars : List LiteralChar) : Prop where
  /-- No accent without a backslash. -/
  unended : plain '\x60' ∉ chars
  /-- No dollar sign before a brace, both without a backslash. -/
  unopened : ¬ [plain '$', plain '\x7b'] <:+: chars

theorem Inside.nil : Inside [] := ⟨List.not_mem_nil, by simp⟩

theorem Inside.escaped {chars : List LiteralChar} (h : Inside chars) (c : Char) :
    Inside (escaped c :: chars) where
  unended := by simp [h.unended]
  unopened := by simp [List.infix_cons_iff, h.unopened]

theorem Inside.plain {chars : List LiteralChar} (h : Inside chars) {c : Char} (hc : c ≠ '\x60')
    (hpair : c = '$' → chars.head? ≠ some (.plain '\x7b')) : Inside (plain c :: chars) where
  unended := by simp [h.unended, Ne.symm hc]
  unopened := by
    rw [List.infix_cons_iff, not_or]
    refine ⟨fun hprefix => ?_, h.unopened⟩
    obtain ⟨hdollar, hbrace⟩ := List.cons_prefix_cons.1 hprefix
    obtain ⟨rest, hrest⟩ := hbrace
    refine hpair (LiteralChar.plain.inj hdollar).symm ?_
    rw [← hrest]
    rfl

end LiteralChar

/-! ### Escaping, piece by piece -/

/-- A character inside a literal, where it opens no expression. -/
def literalChar (c : Char) : Text := if c = '\\' || c = '\x60' then ['\\', c] else [c]

theorem escapeLiteral_opening (t : Text) :
    escapeLiteral ('$' :: '\x7b' :: t) = '\\' :: '$' :: '\x7b' :: escapeLiteral t := rfl

theorem escapeLiteral_cons {c : Char} {t : Text} (h : c = '$' → t.head? ≠ some '\x7b') :
    escapeLiteral (c :: t) = literalChar c ++ escapeLiteral t := by
  rw [escapeLiteral, literalChar]
  · split <;> rfl
  · rintro rest hc rfl
    exact h hc rfl

/-- A text is empty, or it starts with a dollar sign before a brace, or with a character that opens
no expression. -/
@[elab_as_elim]
theorem literal_induction {motive : Text → Prop} (nil : motive [])
    (opening : ∀ t, motive t → motive ('$' :: '\x7b' :: t))
    (cons : ∀ c t, (c = '$' → t.head? ≠ some '\x7b') → motive t → motive (c :: t)) (t : Text) :
    motive t := by
  have hother : ∀ (c : Char) (t : Text), (∀ rest, c = '$' → t ≠ '\x7b' :: rest) → motive t →
      motive (c :: t) := fun c t h => cons c t fun hc hbrace => by
    obtain ⟨rest, hrest⟩ := List.head?_eq_some_iff.1 hbrace
    exact h rest hc hrest
  induction t using escapeLiteral.induct with
  | case1 => exact nil
  | case2 t ih => exact opening t ih
  | case3 c t h _ ih => exact hother c t h ih
  | case4 c t h _ ih => exact hother c t h ih

theorem escapeLiteral_newline_cons (t : Text) :
    escapeLiteral ('\n' :: t) = '\n' :: escapeLiteral t :=
  escapeLiteral_cons fun h => absurd h (by decide)

theorem escapeLiteral_concat_newline (t : Text) :
    escapeLiteral (t ++ ['\n']) = escapeLiteral t ++ ['\n'] := by
  induction t using literal_induction with
  | nil => rfl
  | opening t ih =>
    rw [List.cons_append, List.cons_append, escapeLiteral_opening, ih]
    rfl
  | cons c t h ih =>
    have hlater : c = '$' → (t ++ ['\n']).head? ≠ some '\x7b' := by
      cases t with
      | nil => exact fun _ => by decide
      | cons d t => exact h
    rw [List.cons_append, escapeLiteral_cons hlater, escapeLiteral_cons h, ih, List.append_assoc]

/-! ### Escaping as replacements -/

theorem head?_flatMap_literalChar {t : Text} (h : (t.flatMap literalChar).head? = some '\x7b') :
    t.head? = some '\x7b' := by
  cases t with
  | nil => cases h
  | cons c t =>
    rw [List.flatMap_cons, literalChar] at h
    split at h
    · cases h
    · exact h

/-- Without the dollar signs, escaping is done character by character. -/
theorem replace_eq_flatMap_literalChar (t : Text) :
    Text.replace ['\x60'] ['\\', '\x60'] (Text.replace ['\\'] ['\\', '\\'] t) =
      t.flatMap literalChar := by
  rw [Text.replace_singleton, Text.replace_singleton, List.flatMap_assoc]
  congr 1
  funext c
  rw [literalChar]
  by_cases hslash : c = '\\'
  · rw [hslash]
    rfl
  · by_cases haccent : c = '\x60'
    · rw [haccent]
      rfl
    · simp [hslash, haccent]

/-- Escaping doubles the backslashes, then puts one before each accent, and then one before each
dollar sign that stands before a brace. -/
theorem escapeLiteral_eq_replace (t : Text) :
    escapeLiteral t = Text.replace ['$', '\x7b'] ['\\', '$', '\x7b']
      (Text.replace ['\x60'] ['\\', '\x60'] (Text.replace ['\\'] ['\\', '\\'] t)) := by
  rw [replace_eq_flatMap_literalChar]
  induction t using literal_induction with
  | nil => rfl
  | opening t ih =>
    rw [escapeLiteral_opening, ih]
    rfl
  | cons c t h ih =>
    rw [escapeLiteral_cons h, ih, List.flatMap_cons, literalChar]
    split
    · next hspecial =>
      have hdollar : '$' ≠ c := by
        rintro rfl
        revert hspecial
        decide
      rw [List.cons_append, List.cons_append, List.cons_append, List.cons_append,
        Text.replace_cons_of_not_start (by simp [List.cons_prefix_cons]),
        Text.replace_cons_of_not_start (by simp [List.cons_prefix_cons, hdollar])]
      rfl
    · -- a dollar sign that stands before no brace does not get before one by escaping
      have hclosed : ¬ ['$', '\x7b'] <+: c :: t.flatMap literalChar := fun hprefix => by
        obtain ⟨hdollar, rest, hrest⟩ := List.cons_prefix_cons.1 hprefix
        exact h hdollar.symm (head?_flatMap_literalChar (by rw [← hrest]; rfl))
      exact (Text.replace_cons_of_not_start hclosed _).symm

/-! ### Reading back -/

open LiteralChar

/-- What is written inside a literal is read back as it was, and it stays inside. -/
theorem exists_read_escapeLiteral (t : Text) :
    ∃ chars, read? (escapeLiteral t) = some chars ∧ chars.map value = t ∧ Inside chars := by
  induction t using literal_induction with
  | nil => exact ⟨[], rfl, rfl, .nil⟩
  | opening t ih =>
    obtain ⟨chars, hread, hvalue, hinside⟩ := ih
    refine ⟨escaped '$' :: plain '\x7b' :: chars, ?_, ?_, ?_⟩
    · rw [escapeLiteral_opening, read?_escaped, read?_plain (by decide), hread]
      rfl
    · rw [List.map_cons, List.map_cons, hvalue]
      rfl
    · exact (hinside.plain (by decide) (fun h => absurd h (by decide))).escaped _
  | cons c t h ih =>
    obtain ⟨chars, hread, hvalue, hinside⟩ := ih
    rw [escapeLiteral_cons h, literalChar]
    split
    · refine ⟨escaped c :: chars, ?_, ?_, hinside.escaped c⟩
      · exact congrArg (Option.map (escaped c :: ·)) hread
      · rw [List.map_cons, hvalue]
        rfl
    · next hspecial =>
      rw [Bool.or_eq_true, decide_eq_true_eq, decide_eq_true_eq, not_or] at hspecial
      refine ⟨plain c :: chars, ?_, ?_, hinside.plain hspecial.2 fun hdollar hbrace => ?_⟩
      · exact (read?_plain hspecial.1 _).trans (congrArg (Option.map (plain c :: ·)) hread)
      · rw [List.map_cons, hvalue]
        rfl
      · -- the brace would be the next character of the text
        obtain ⟨others, rfl⟩ := List.head?_eq_some_iff.1 hbrace
        exact h hdollar (by rw [← hvalue]; rfl)

/-- Only a dollar sign that stands right before a brace is escaped. -/
example : escapeLiteral "$$\x7b\\$" = "$\\$\x7b\\\\$".toList := by decide

end Componentry.Template
