import Componentry.Proofs.Template.Reader
import Mathlib.Data.List.Chain

/-!
# Block comments

A block comment ends at the first asterisk that a slash follows. A text may stand inside one if it
has no such pair, and neither may a pair come about where the text meets what stands before and
after it.

* `unclosed_defuseComment`: a defused text has no such pair;
* `IsComment.of_unclosed`: what stands between the marks of a comment does not end it;
* `isComment_comment`: the comments of a template.
-/

namespace Componentry.Template

/-! ### Texts that do not end a comment -/

/-- No slash follows an asterisk directly. -/
def Unclosed (t : Text) : Prop := t.IsChain fun c d => ¬ (c = '*' ∧ d = '/')

instance (t : Text) : Decidable (Unclosed t) := inferInstanceAs (Decidable (List.IsChain _ _))

theorem unclosed_iff {t : Text} :
    Unclosed t ↔ ∀ before after, t ≠ before ++ '*' :: '/' :: after := by
  rw [Unclosed, List.isChain_iff_forall_rel_of_append_cons_cons]
  constructor
  · exact fun h before after heq => h heq ⟨rfl, rfl⟩
  · rintro h c d before after heq ⟨rfl, rfl⟩
    exact h before after heq

theorem Unclosed.of_not_mem {t : Text} (h : '*' ∉ t) : Unclosed t := by
  rw [unclosed_iff]
  rintro before after rfl
  exact h (List.mem_append_right _ List.mem_cons_self)

theorem Unclosed.of_infix {s t : Text} (h : Unclosed t) (hpart : s <:+: t) : Unclosed s :=
  List.IsChain.infix h hpart

/-- Two texts stand next to each other if the first does not end in an asterisk, or the second does
not start with a slash. -/
theorem Unclosed.append {s t : Text} (hs : Unclosed s) (ht : Unclosed t)
    (hmeet : s.getLast? ≠ some '*' ∨ t.head? ≠ some '/') : Unclosed (s ++ t) := by
  refine List.isChain_append.2 ⟨hs, ht, ?_⟩
  rintro c hc d hd ⟨rfl, rfl⟩
  exact hmeet.elim (· hc) (· hd)

/-- Lines that do not end a comment do not end it together. -/
theorem Unclosed.intercalate {lines : List Text} (h : ∀ line ∈ lines, Unclosed line) :
    Unclosed (List.intercalate ['\n'] lines) := by
  induction lines with
  | nil => exact .nil
  | cons line lines ih =>
    rw [List.forall_mem_cons] at h
    cases lines with
    | nil => simpa using h.1
    | cons second lines =>
      rw [List.intercalate_cons_cons, List.append_assoc]
      -- the line feed keeps the two lines apart
      exact h.1.append ((show Unclosed ['\n'] by decide).append (ih h.2) (.inl (by decide)))
        (.inr (by simp))

theorem unclosed_defuseComment (t : Text) : Unclosed (defuseComment t) := by
  fun_induction defuseComment t with
  | case1 rest ih =>
    exact (show Unclosed ['*', ' ', '/'] by decide).append ih (.inl (by decide))
  | case2 c rest hpair ih =>
    refine List.isChain_cons.2 ⟨?_, ih⟩
    -- what follows starts as it did before
    rintro d hd ⟨rfl, rfl⟩
    rw [Reader.head?_defuseComment] at hd
    obtain ⟨more, rfl⟩ := List.head?_eq_some_iff.1 hd
    exact hpair more rfl rfl
  | case3 => exact .nil

/-! ### Comments -/

/-- A text is a block comment with `before` in front of it and `after` behind it. -/
structure IsComment (before t after : Text) : Prop where
  /-- It is opened and closed, and a reader that has come past the opening leaves it there, whatever
  follows. -/
  enclosed : ∃ content, t = before ++ "/*" ++ content ++ "*/" ++ after ∧
    ∀ rest, Reader.cutComment? (content ++ "*/" ++ rest) = some (content, rest)
  /-- What ends a comment occurs in it nowhere else. -/
  closed_once : ∀ s rest, t = s ++ "*/" ++ rest → rest = after

/-- A comment is read up to its end. -/
theorem cutComment?_of_unclosed {content : Text} (h : Unclosed (content ++ ['*'])) (rest : Text) :
    Reader.cutComment? (content ++ '*' :: '/' :: rest) = some (content, rest) := by
  induction content with
  | nil => rfl
  | cons c content ih =>
    have htail : Unclosed (content ++ ['*']) := h.of_infix (List.suffix_cons _ _).isInfix
    rw [List.cons_append, Reader.cutComment?, ih htail]
    · rfl
    · -- the comment would end before
      rintro after rfl hafter
      cases content with
      | nil => cases hafter
      | cons d content =>
        obtain ⟨rfl, -⟩ := List.cons.inj hafter
        exact (List.isChain_cons_cons.1 h).1 ⟨rfl, rfl⟩

/-- Between the marks of a comment, what does not close it stays inside. -/
theorem IsComment.of_unclosed {before content after : Text}
    (h : Unclosed (before ++ "/*" ++ content ++ ['*'])) (hafter : Unclosed ('/' :: after)) :
    IsComment before (before ++ "/*" ++ content ++ "*/" ++ after) after := by
  refine ⟨⟨content, rfl, fun rest => ?_⟩, fun s rest heq => ?_⟩
  · have hcontent : Unclosed (content ++ ['*']) := by
      rw [List.append_assoc] at h
      exact h.of_infix (List.suffix_append _ _).isInfix
    have hread := cutComment?_of_unclosed hcontent rest
    rwa [List.append_assoc]
  · -- the pair lies before the last asterisk, at it, or behind it
    have hpair : (before ++ "/*" ++ content ++ ['*']) ++ '/' :: after =
        (s ++ ['*']) ++ '/' :: rest := by
      simpa [List.append_assoc] using heq
    rcases List.append_eq_append_iff.1 hpair with ⟨more, hs, hmore⟩ | ⟨more, ht, hmore⟩
    · rcases List.eq_nil_or_concat' more with rfl | ⟨more, c, rfl⟩
      · exact (List.cons.inj hmore).2.symm
      · obtain ⟨-, hlast⟩ := List.append_inj' (hs.trans (List.append_assoc _ _ _).symm) rfl
        obtain rfl := List.singleton_inj.1 hlast
        exact absurd (by simpa using hmore) (unclosed_iff.1 hafter more rest)
    · cases more with
      | nil => exact (List.cons.inj hmore).2
      | cons c more =>
        obtain ⟨rfl, -⟩ := List.cons.inj hmore
        exact absurd (by simpa using ht) (unclosed_iff.1 h s more)

/-- A comment of a document is one block comment between braces. -/
theorem isComment_comment (t : Text) : IsComment ['\x7b'] (comment t) ['\x7d'] := by
  have hcontent : Unclosed ("\x7b/* ".toList ++ defuseComment (Text.trim t) ++ " *".toList) :=
    ((show Unclosed "\x7b/* ".toList by decide).append (unclosed_defuseComment _)
      (.inl (by decide))).append (by decide) (.inr (by decide))
  have hcomment : comment t = ['\x7b'] ++ "/*".toList ++
      (' ' :: (defuseComment (Text.trim t) ++ [' '])) ++ "*/".toList ++ ['\x7d'] := by
    simp [comment]
  rw [hcomment]
  exact .of_unclosed (by simpa using hcontent) (by decide)

end Componentry.Template
