import Componentry.CommandLine.Options
import Mathlib.Data.List.TakeWhile

/-!
# Words among arguments

An argument that is read as a word is read as it is. What starts with a dash is a word only if it
holds a space or is a negative number.

* `eq_of_readArgument?_eq_word`: words are read as they are;
* `readArgument?_of_ne_dash`, `readArgument?_of_isDigit`: arguments by their start;
* `wordOrUnknown_eq_word_iff`: what starts with a dash and holds a comma.
-/

namespace Componentry.CommandLine

variable {forms : List OptionForm} {argument word : Text}

theorem eq_of_wordOrUnknown_eq_word (h : wordOrUnknown argument = .word word) :
    word = argument := by
  rw [wordOrUnknown] at h
  split at h
  · exact (Argued.word.inj h).symm
  · cases h

theorem readShortHelp_ne_word (rest : Text) : readShortHelp rest ≠ .word word := by
  rw [readShortHelp.eq_def]
  split
  · nofun
  · split <;> nofun
  · split <;> nofun

/-- A word is read as it is. -/
theorem eq_of_readArgument?_eq_word (h : readArgument? forms argument = some (.word word)) :
    word = argument := by
  unfold readArgument? at h
  split at h
  next body =>
    unfold readLong? at h
    dsimp only at h
    split at h
    · exact eq_of_wordOrUnknown_eq_word (Option.some.inj h)
    · split at h <;> cases h
    · cases h
    · cases h
  next rest => exact absurd (Option.some.inj h) (readShortHelp_ne_word rest)
  next => exact (Argued.word.inj (Option.some.inj h)).symm
  next => exact eq_of_wordOrUnknown_eq_word (Option.some.inj h)
  next => exact (Argued.word.inj (Option.some.inj h)).symm

/-- There is no comma in what options take for a negative number. -/
theorem isNegativeNumber_eq_false (h : ',' ∈ argument) : isNegativeNumber argument = false := by
  -- the comma stands behind the digits
  have hafter : ∀ {u : Text}, ',' ∈ u → ',' ∈ u.drop (u.takeWhile isDecimalDigit).length := by
    intro u hu
    have htake : u.take (u.takeWhile isDecimalDigit).length = u.takeWhile isDecimalDigit :=
      (List.prefix_iff_eq_take.1 (List.takeWhile_prefix _)).symm
    rw [← List.take_append_drop (u.takeWhile isDecimalDigit).length u, htake,
      List.mem_append] at hu
    refine hu.resolve_left fun hdigit => ?_
    exact absurd (List.mem_takeWhile_imp hdigit) (by decide +kernel)
  have hends : ∀ {u : Text}, ',' ∈ u → isNegativeNumber.endsHere u = false := by
    intro u hu
    rw [isNegativeNumber.endsHere, Bool.or_eq_false_iff, decide_eq_false_iff_not,
      decide_eq_false_iff_not]
    constructor
    · rintro rfl
      cases hu
    · rintro rfl
      exact absurd hu (by decide)
  unfold isNegativeNumber
  split
  next rest =>
    have hrest := hafter ((List.mem_cons.1 h).resolve_left (by decide))
    dsimp only
    split
    next fraction heq =>
      rw [heq] at hrest
      rw [hends (hafter ((List.mem_cons.1 hrest).resolve_left (by decide))), Bool.and_false]
    next => rw [hends hrest, Bool.and_false]
  next => rfl

/-- What starts with a dash and holds a comma is a word only if it has a space. -/
theorem wordOrUnknown_eq_word_iff (h : ',' ∈ argument) :
    wordOrUnknown argument = .word argument ↔ ' ' ∈ argument := by
  rw [wordOrUnknown, isNegativeNumber_eq_false h, Bool.false_or, ← List.contains_iff_mem]
  split
  next hspace => exact iff_of_true rfl hspace
  next hspace => exact iff_of_false nofun hspace

theorem readArgument?_of_ne_dash {c : Char} (h : c ≠ '-') (rest : Text) :
    readArgument? forms (c :: rest) = some (.word (c :: rest)) := by
  unfold readArgument?
  split
  next heq => exact absurd (List.cons.inj heq).1 h
  next heq => exact absurd (List.cons.inj heq).1 h
  next => rfl
  next heq => exact absurd (List.cons.inj heq).1 h
  next => rfl

/-- No option starts with a dash and a digit. -/
theorem readArgument?_of_isDigit {c : Char} (h : c.isDigit) (rest : Text) :
    readArgument? forms ('-' :: c :: rest) = some (wordOrUnknown ('-' :: c :: rest)) := by
  unfold readArgument?
  split
  next heq =>
    obtain ⟨rfl, -⟩ := List.cons.inj (List.cons.inj heq).2
    cases h
  next heq =>
    obtain ⟨rfl, -⟩ := List.cons.inj (List.cons.inj heq).2
    cases h
  next heq => cases heq
  next => rfl
  next hno => exact absurd rfl (hno _)

theorem readArguments?_cons (forms : List OptionForm) (h : argument ≠ endMark)
    (arguments : List Text) :
    readArguments? forms (argument :: arguments) =
      match readArgument? forms argument, readArguments? forms arguments with
      | some first, some rest => some (first :: rest)
      | _, _ => none := by
  rw [readArguments?]
  exact if_neg h

end Componentry.CommandLine
