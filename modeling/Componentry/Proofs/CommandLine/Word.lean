import Componentry.CommandLine.Segment
import Componentry.Proofs.Text
import Mathlib

/-!
# Quoted words read back

A line that is joined from words is cut into these words again, whatever characters they hold.

* `wordsFrom?_quoteWord`: the reader gets through a quoted word with the word in hand;
* `words?_joinWords`: what a joined line is cut into;
* `wordsOf_joinWords`: the blanks around a joined line are not taken from its words.
-/

namespace Componentry.CommandLine

/-! ### Characters of quoted words -/

/-- A character that needs no quotation marks is not one that ends a word or changes how what
follows is read. -/
theorem ordinary_of_isPlain {c : Char} (h : isPlain c) :
    isSpace c = false ∧ isQuote c = false ∧ c ≠ '\\' ∧ isSeparator c = false := by
  have hne : ∀ d, isPlain d = false → c ≠ d := by
    rintro d hd rfl
    rw [h] at hd
    cases hd
  simp only [isSpace, isQuote, isSeparator, Bool.or_eq_false_iff, decide_eq_false_iff_not]
  refine ⟨⟨⟨⟨?_, ?_⟩, ?_⟩, ?_⟩, ⟨?_, ?_⟩, ?_, ⟨?_, ?_⟩, ?_⟩ <;> exact hne _ (by decide)

/-- A character as it is written between single quotation marks. -/
def quotedChar (c : Char) : Text := if c = '\'' then quotedMark else [c]

theorem quoteWord_eq (word : Text) :
    quoteWord word = if !word.isEmpty && word.all isPlain then word
      else '\'' :: (word.flatMap quotedChar ++ ['\'']) := rfl

/-! ### Reading a word -/

/-- Plain characters go into the word. -/
theorem wordsFrom?_plain {plain : Text} (h : ∀ c ∈ plain, isPlain c) (word rest : Text) :
    wordsFrom? .word word (plain ++ rest) = wordsFrom? .word (plain.reverse ++ word) rest := by
  induction plain generalizing word with
  | nil => rfl
  | cons c plain ih =>
    rw [List.forall_mem_cons] at h
    obtain ⟨hspace, hquote, hslash, hseparator⟩ := ordinary_of_isPlain h.1
    have hstep : wordsFrom? .word word (c :: (plain ++ rest)) =
        wordsFrom? .word (c :: word) (plain ++ rest) := by
      simp [wordsFrom?, hspace, hquote, hslash, hseparator]
    rw [List.cons_append, hstep, ih h.2, List.reverse_cons, List.append_assoc]
    rfl

/-- Between single quotation marks every character of the quoted text goes into the word. -/
theorem wordsFrom?_quoted (text word rest : Text) :
    wordsFrom? (.quoted '\'') word (text.flatMap quotedChar ++ rest) =
      wordsFrom? (.quoted '\'') (text.reverse ++ word) rest := by
  induction text generalizing word with
  | nil => rfl
  | cons c text ih =>
    have hstep : ∀ after, wordsFrom? (.quoted '\'') word (quotedChar c ++ after) =
        wordsFrom? (.quoted '\'') (c :: word) after := by
      intro after
      by_cases hmark : c = '\''
      · -- the mark stands between double ones, outside the single ones
        rw [hmark]
        rfl
      · simp [quotedChar, wordsFrom?, hmark]
    rw [List.flatMap_cons, List.append_assoc, hstep, ih, List.reverse_cons, List.append_assoc]
    rfl

/-- The reader gets through a quoted word with the word in hand. -/
theorem wordsFrom?_quoteWord (word rest : Text) :
    wordsFrom? .between [] (quoteWord word ++ rest) = wordsFrom? .word word.reverse rest := by
  rw [quoteWord_eq]
  split
  -- a plain word stands as it is
  next hplain =>
    rw [Bool.and_eq_true, List.all_eq_true] at hplain
    obtain ⟨hne, hplain⟩ := hplain
    cases word with
    | nil => cases hne
    | cons c word =>
      rw [List.forall_mem_cons] at hplain
      obtain ⟨hspace, hquote, hslash, hseparator⟩ := ordinary_of_isPlain hplain.1
      have hopened : opened c = (.word, [c]) := by
        simp [opened, hspace, hquote, hslash, hseparator]
      rw [List.cons_append, wordsFrom?, hopened, wordsFrom?_plain hplain.2, List.reverse_cons]
  next =>
    have hopened : opened '\'' = (.quoted '\'', []) := by decide
    rw [List.cons_append, List.append_assoc, wordsFrom?, hopened, wordsFrom?_quoted,
      List.append_nil]
    rfl

theorem joinWords_singleton (word : Text) : joinWords [word] = quoteWord word :=
  List.intercalate_singleton

theorem joinWords_cons_cons (word next : Text) (words : List Text) :
    joinWords (word :: next :: words) = quoteWord word ++ ' ' :: joinWords (next :: words) := by
  rw [joinWords, List.map_cons, List.map_cons, List.intercalate_cons_cons, List.append_assoc]
  rfl

/-- A joined line is cut into the words that it was joined from. -/
theorem words?_joinWords (words : List Text) : words? (joinWords words) = some words := by
  rw [words?]
  induction words with
  | nil => rfl
  | cons word words ih =>
    -- a space follows every word but the last one
    cases words with
    | nil =>
      have hread := wordsFrom?_quoteWord word []
      rw [List.append_nil] at hread
      rw [joinWords_singleton, hread, wordsFrom?, List.reverse_reverse]
    | cons next words =>
      -- the space ends the word
      rw [joinWords_cons_cons, wordsFrom?_quoteWord, wordsFrom?, if_pos (by decide), ih,
        List.reverse_reverse]
      rfl

/-! ### Blanks around a line -/

theorem toNat_lt_of_isPlain {c : Char} (h : isPlain c) : c.toNat < 128 := by
  simp only [isPlain, Bool.or_eq_true, decide_eq_true_eq] at h
  rcases h with (((((((((h | rfl) | rfl) | rfl) | rfl) | rfl) | rfl) | rfl) | rfl) | rfl) | rfl
  · exact (Text.toNat_of_isAlphanum h).2
  all_goals decide

theorem not_isBlank_of_isPlain {c : Char} (h : isPlain c) : ¬ isBlank c := by
  have hascii : ∀ n < 128, isPlain (Char.ofNat n) → ¬ isBlank (Char.ofNat n) := by decide
  rw [← Char.ofNat_toNat c] at h ⊢
  exact hascii c.toNat (toNat_lt_of_isPlain (by rwa [Char.ofNat_toNat] at h)) h

/-- A quoted word is not empty, and starts and ends with no blank. -/
theorem ends_quoteWord (word : Text) : quoteWord word ≠ [] ∧
    (∀ c ∈ (quoteWord word).head?, ¬ isBlank c) ∧
      ∀ c ∈ (quoteWord word).getLast?, ¬ isBlank c := by
  have hmark : ¬ isBlank '\'' := by decide
  rw [quoteWord_eq]
  split
  next hplain =>
    rw [Bool.and_eq_true, List.all_eq_true, Bool.not_eq_true', List.isEmpty_eq_false_iff] at hplain
    exact ⟨hplain.1,
      fun c hc => not_isBlank_of_isPlain (hplain.2 c (List.mem_of_mem_head? hc)),
      fun c hc => not_isBlank_of_isPlain (hplain.2 c (List.mem_of_mem_getLast? hc))⟩
  next =>
    refine ⟨List.cons_ne_nil _ _, fun c hc => ?_, fun c hc => ?_⟩
    · rwa [← Option.some.inj hc]
    · rw [← List.cons_append, List.getLast?_concat] at hc
      rwa [← Option.some.inj hc]

theorem joinWords_cons_ne_nil (word : Text) (words : List Text) :
    joinWords (word :: words) ≠ [] := by
  have hne := (ends_quoteWord word).1
  cases words with
  | nil => rwa [joinWords_singleton]
  | cons next words =>
    rw [joinWords_cons_cons]
    exact List.append_ne_nil_of_left_ne_nil hne _

/-- A joined line starts and ends with no blank. -/
theorem ends_joinWords (words : List Text) :
    (∀ c ∈ (joinWords words).head?, ¬ isBlank c) ∧
      ∀ c ∈ (joinWords words).getLast?, ¬ isBlank c := by
  induction words with
  | nil => exact ⟨fun c hc => (nomatch hc), fun c hc => (nomatch hc)⟩
  | cons word words ih =>
    obtain ⟨hne, hfirst, hlast⟩ := ends_quoteWord word
    cases words with
    | nil =>
      rw [joinWords_singleton]
      exact ⟨hfirst, hlast⟩
    | cons next words =>
      rw [joinWords_cons_cons]
      -- the line starts as its first word does, and ends as the words after it do
      refine ⟨?_, ?_⟩
      · rwa [List.head?_append_of_ne_nil _ hne]
      · rw [List.getLast?_append_of_ne_nil _ (List.cons_ne_nil _ _),
          List.getLast?_cons_of_ne_nil (joinWords_cons_ne_nil next words)]
        exact ih.2

/-- The words of a joined line are those that it was joined from. -/
theorem wordsOf_joinWords (words : List Text) : wordsOf (joinWords words) = words := by
  obtain ⟨hfirst, hlast⟩ := ends_joinWords words
  rw [wordsOf, Text.trim_eq_self hfirst hlast, words?_joinWords]
  rfl

end Componentry.CommandLine
