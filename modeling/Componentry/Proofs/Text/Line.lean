import Componentry.Proofs.Text
import Componentry.Text.Line

/-!
# Lines

A text is cut at every character that ends a line anywhere in Unicode, and its lines are joined by
line feeds again. What comes of a text that does not end in a line end is the text with each of its
line ends turned into a line feed; the reading of a text file does the same to the three ASCII line
ends alone.

* `intercalate_lines`: the lines of a text, joined by line feeds;
* `unifyLineEnds_eq_unifyNewlines_iff`: when both readings of line ends agree;
* `unindent?_indented`: an indent before each line is taken off again.
-/

namespace Componentry.Text

/-! ### Line ends -/

theorem isBlank_of_isLineEnd {c : Char} (h : isLineEnd c) : isBlank c := by
  simp only [isLineEnd, inRuns] at h
  simp only [isBlank, blankRuns, inRuns]
  grind

theorem not_isLineEnd_of_isAlphanum {c : Char} (h : c.isAlphanum) : ¬ isLineEnd c := by
  have hbounds := toNat_of_isAlphanum h
  simp only [isLineEnd, inRuns]
  grind

theorem lines_cons_of_isLineEnd {c : Char} (hend : isLineEnd c) {rest : Text}
    (hpair : ∀ more, c = '\r' → rest = '\n' :: more → False) :
    lines (c :: rest) = [] :: lines rest := by
  rw [lines, if_pos hend]
  exact hpair

theorem lines_cons_of_lines_eq_nil {c : Char} (hend : ¬ isLineEnd c) {rest : Text}
    (hlines : lines rest = []) : lines (c :: rest) = [[c]] := by
  rw [lines, if_neg hend, hlines]
  rintro more rfl
  exact absurd (by decide) hend

theorem lines_cons_of_lines_eq_cons {c : Char} (hend : ¬ isLineEnd c) {rest line : Text}
    {more : List Text} (hlines : lines rest = line :: more) :
    lines (c :: rest) = (c :: line) :: more := by
  rw [lines, if_neg hend, hlines]
  rintro more rfl
  exact absurd (by decide) hend

/-- Lines have no line ends. -/
theorem not_isLineEnd_of_mem_lines {t line : Text} {c : Char} (hline : line ∈ lines t)
    (hc : c ∈ line) : ¬ isLineEnd c := by
  fun_induction lines t generalizing line with
  | case1 => cases hline
  | case2 rest ih =>
    rcases List.mem_cons.1 hline with rfl | hline
    · cases hc
    · exact ih hline hc
  | case3 d rest hpair hend ih =>
    rcases List.mem_cons.1 hline with rfl | hline
    · cases hc
    · exact ih hline hc
  | case4 d rest hpair hend hlines ih =>
    obtain rfl := List.mem_singleton.1 hline
    rwa [List.mem_singleton.1 hc]
  | case5 d rest hpair hend first more hlines ih =>
    rw [hlines] at ih
    rcases List.mem_cons.1 hline with rfl | hline
    · -- the first line has the character that stands before it, and its own
      rcases List.mem_cons.1 hc with rfl | hc
      · exact hend
      · exact ih List.mem_cons_self hc
    · exact ih (List.mem_cons_of_mem _ hline) hc

theorem lines_ne_nil {t : Text} (h : t ≠ []) : lines t ≠ [] := by
  fun_cases lines t with
  | case1 => exact absurd rfl h
  | _ => exact List.cons_ne_nil _ _

/-- A line feed ends the line of what precedes it, and no other. -/
theorem lines_append_cons {t : Text} (h : ∀ c ∈ t, ¬ isLineEnd c) (rest : Text) :
    lines (t ++ '\n' :: rest) = t :: lines rest := by
  induction t with
  | nil => exact lines_cons_of_isLineEnd (by decide) fun more heq => absurd heq (by decide)
  | cons c t ih =>
    rw [List.forall_mem_cons] at h
    exact lines_cons_of_lines_eq_cons h.1 (ih h.2)

/-- A text with each line end, whichever it is, turned into a line feed. A carriage return followed
by a line feed is one line end. -/
def unifyLineEnds : Text → Text
  | [] => []
  | '\r' :: '\n' :: rest => '\n' :: unifyLineEnds rest
  | c :: rest => (if isLineEnd c then '\n' else c) :: unifyLineEnds rest

/-- Joining the lines of a text by line feeds unifies its line ends, as long as none of them ends
the text: cutting leaves no empty line behind such a one. -/
theorem intercalate_lines {t : Text} (h : ∀ c ∈ t.getLast?, ¬ isLineEnd c) :
    List.intercalate ['\n'] (lines t) = unifyLineEnds t := by
  have hmore : ∀ {c : Char} {rest : Text}, isLineEnd c →
      (∀ d ∈ (c :: rest).getLast?, ¬ isLineEnd d) →
        rest ≠ [] ∧ ∀ d ∈ rest.getLast?, ¬ isLineEnd d := by
    intro c rest hc hlast
    rcases eq_or_ne rest [] with rfl | hne
    · exact absurd hc (hlast c rfl)
    · exact ⟨hne, by rwa [List.getLast?_cons_of_ne_nil hne] at hlast⟩
  fun_induction unifyLineEnds t with
  | case1 => rfl
  | case2 rest ih =>
    obtain ⟨hne, hlast⟩ := hmore (by decide) (hmore (c := '\r') (by decide) h).2
    rw [lines, List.intercalate_cons_of_ne_nil (lines_ne_nil hne), ih hlast]
    rfl
  | case3 c rest hpair ih =>
    split
    next hend =>
      obtain ⟨hne, hlast⟩ := hmore hend h
      rw [lines_cons_of_isLineEnd hend hpair,
        List.intercalate_cons_of_ne_nil (lines_ne_nil hne), ih hlast]
      rfl
    next hend =>
      have hlast : ∀ d ∈ rest.getLast?, ¬ isLineEnd d := by
        rcases eq_or_ne rest [] with rfl | hne
        · exact fun d hd => nomatch hd
        · rwa [List.getLast?_cons_of_ne_nil hne] at h
      -- the character goes to the front of the first line after it
      cases hlines : lines rest with
      | nil =>
        rw [hlines] at ih
        rw [lines_cons_of_lines_eq_nil hend hlines, ← ih hlast]
        rfl
      | cons line more =>
        rw [hlines] at ih
        rw [lines_cons_of_lines_eq_cons hend hlines, ← ih hlast]
        cases more with
        | nil => rfl
        | cons second more => simp only [List.intercalate_cons_cons, List.cons_append]

/-- The two readings of line ends agree exactly on texts whose only line ends are line feeds and
carriage returns. -/
theorem unifyLineEnds_eq_unifyNewlines_iff (t : Text) :
    unifyLineEnds t = unifyNewlines t ↔ ∀ c ∈ t, isLineEnd c → c = '\n' ∨ c = '\r' := by
  fun_induction unifyNewlines t with
  | case1 => simp [unifyLineEnds]
  | case2 rest ih => simp [unifyLineEnds, ih]
  -- a carriage return of its own, and then any other character
  | case3 rest hpair ih =>
    have hstep : unifyLineEnds ('\r' :: rest) = '\n' :: unifyLineEnds rest := by
      rw [unifyLineEnds, if_pos (by decide)]
      exact fun more _ => hpair more
    simp [hstep, ih]
  | case4 c rest hpair hreturn ih =>
    have hstep : unifyLineEnds (c :: rest) =
        (if isLineEnd c then '\n' else c) :: unifyLineEnds rest := by
      rw [unifyLineEnds]
      exact hpair
    have hne : c ≠ '\r' := hreturn
    rw [hstep, List.cons_eq_cons, ih, List.forall_mem_cons]
    refine and_congr_left fun _ => ?_
    by_cases hend : isLineEnd c
    · simp [hend, hne, eq_comm]
    · simp [hend]

/-! ### Indents -/

/-- A text without `indent` at the start of each of its lines, which end with line feeds; none if
one of them does not start with it. -/
def unindent? (indent t : Text) : Option Text :=
  ((splitOn '\n' t).mapM (dropPrefix? indent)).map (List.intercalate ['\n'])

theorem dropPrefix?_append (opening t : Text) : dropPrefix? opening (opening ++ t) = some t := by
  induction opening with
  | nil => cases t <;> rfl
  | cons c opening ih => rw [List.cons_append, dropPrefix?, if_pos rfl, ih]

/-- An indent before each line is taken off again. -/
theorem unindent?_indented {indent : Text} (hindent : '\n' ∉ indent) {lines : List Text}
    (hne : lines ≠ []) (hlines : ∀ line ∈ lines, '\n' ∉ line) :
    unindent? indent (List.intercalate ['\n'] (lines.map (indent ++ ·))) =
      some (List.intercalate ['\n'] lines) := by
  have hcut : ∀ line ∈ lines.map (indent ++ ·), '\n' ∉ line := by
    intro line hline
    obtain ⟨rest, hrest, rfl⟩ := List.mem_map.1 hline
    simp [hindent, hlines rest hrest]
  have hdrop : ∀ lines : List Text,
      (lines.map (indent ++ ·)).mapM (dropPrefix? indent) = some lines := by
    intro lines
    induction lines with
    | nil => rfl
    | cons line lines ih => simp [dropPrefix?_append, ih]
  rw [unindent?, splitOn_intercalate (by simpa using hne) hcut, hdrop]
  rfl

end Componentry.Text
