import Componentry.Markup.Scan

/-!
# Progress of the scanner

What a construct leaves to be read is never longer than what it was read from, and a step of the
scanner that goes on has taken at least one character. So as many steps as the text has characters
are enough:

* `Markup.length_readTag_le`: what follows a start tag;
* `Markup.length_scanConstruct_le`: what follows a construct;
* `Markup.length_step_lt`: what a step leaves to be read is shorter.
-/

namespace Componentry

theorem length_dropWhile_le (p : Char → Bool) (t : Text) : (t.dropWhile p).length ≤ t.length :=
  (List.dropWhile_suffix p).length_le

theorem Text.length_cut?_lt {mark : Char} {t before after : Text}
    (h : Text.cut? mark t = some (before, after)) : after.length < t.length := by
  induction t generalizing before with
  | nil => cases h
  | cons c t ih =>
    rw [Text.cut?] at h
    split at h
    · cases h
      exact Nat.lt_succ_self _
    · obtain ⟨⟨_, _⟩, hcut, heq⟩ := Option.map_eq_some_iff.1 h
      cases heq
      exact Nat.lt_succ_of_lt (ih hcut)

namespace Markup

/-! ### Start tags -/

theorem length_tagName?_le {t name rest : Text} (h : tagName? t = some (name, rest)) :
    rest.length ≤ t.length := by
  cases t with
  | nil => cases h
  | cons c t =>
    rw [tagName?] at h
    split at h
    · cases h
      exact Nat.le_succ_of_le (length_dropWhile_le _ _)
    · cases h

theorem length_skipGap_le (skipped : Bool) (t : Text) :
    (skipGap skipped t).2.length ≤ t.length := by
  induction t generalizing skipped with
  | nil => exact Nat.le_refl _
  | cons c t ih =>
    rw [skipGap]
    split
    · exact Nat.le_succ_of_le (ih true)
    · exact Nat.le_refl _

theorem length_attributeValue?_le {t value after : Text}
    (h : attributeValue? t = some (value, after)) : after.length ≤ t.length := by
  -- blanks, equality signs and blanks again come before the value
  have hblank := length_dropWhile_le isBlank t
  have hmarks := length_dropWhile_le (· = '=') (t.dropWhile isBlank)
  have hbody := length_dropWhile_le isBlank ((t.dropWhile isBlank).dropWhile (· = '='))
  have hbare := length_dropWhile_le isBareChar
    (((t.dropWhile isBlank).dropWhile (· = '=')).dropWhile isBlank)
  rw [attributeValue?] at h
  split at h
  · cases h
  · split at h
    next heq =>
      cases h
      exact Nat.zero_le _
    next c rest heq =>
      rw [heq] at h hbody hbare
      split at h
      · split at h
        next hcut =>
          cases h
          have := Text.length_cut?_lt hcut
          rw [List.length_cons] at hbody
          omega
        next =>
          split at h
          · cases h
            omega
          · split at h
            · cases h
              omega
            · cases h
      · cases h
        omega

theorem length_readAttribute?_le {t rest : Text} {pair : Text × Text} {separated : Bool}
    (h : readAttribute? t = some (pair, separated, rest)) : rest.length ≤ t.length := by
  cases t with
  | nil => cases h
  | cons c t =>
    have hname := length_dropWhile_le isNameChar t
    rw [readAttribute?] at h
    split at h
    · cases h
    · dsimp only at h
      split at h
      next value after hvalue =>
        -- the name, the value and the gap after it are taken one after the other
        have hafter := length_attributeValue?_le hvalue
        have hgap := length_skipGap_le true after
        rw [Option.some.injEq, Prod.mk.injEq] at h
        rw [h.2] at hgap
        dsimp only at hgap
        rw [List.length_cons]
        omega
      next =>
        have hgap := length_skipGap_le ((c :: t.takeWhile isNameChar).getLast?.any isQuote)
          (t.dropWhile isNameChar)
        rw [Option.some.injEq, Prod.mk.injEq] at h
        rw [h.2] at hgap
        dsimp only at hgap
        rw [List.length_cons]
        omega

theorem length_readAttributes_le (fuel : Nat) (separated : Bool) (t : Text) :
    (readAttributes fuel separated t).2.length ≤ t.length := by
  induction fuel generalizing separated t with
  | zero => exact Nat.le_refl _
  | succ fuel ih =>
    rw [readAttributes]
    split
    · split
      · exact Nat.le_refl _
      next hread => exact Nat.le_trans (ih _ _) (length_readAttribute?_le hread)
    · exact Nat.le_refl _

/-- What a start tag leaves to be read. -/
def TagReading.rest? : TagReading → Option Text
  | .tag _ _ _ rest => some rest
  | .text rest => some rest
  | .unfinished => none

theorem length_readTag_le {t rest : Text} (h : (readTag t).rest? = some rest) :
    rest.length ≤ t.length := by
  rw [readTag] at h
  split at h
  · cases h
  next name after hname =>
    have hafter := length_tagName?_le hname
    have hgap := length_skipGap_le (name.getLast?.any fun c => isQuote c || isBlank c) after
    dsimp only at h
    -- the two pairs are named, so that their parts can be taken apart
    generalize hgapped : skipGap (name.getLast?.any fun c => isQuote c || isBlank c) after = gapped
      at h hgap
    obtain ⟨separated, body⟩ := gapped
    have hattributes := length_readAttributes_le body.length separated body
    dsimp only at h hgap
    generalize readAttributes body.length separated body = read at h hattributes
    obtain ⟨attributes, left⟩ := read
    dsimp only at h hattributes
    split at h
    · cases h
      rw [List.length_cons] at hattributes
      omega
    · cases h
      rw [List.length_cons, List.length_cons] at hattributes
      omega
    · cases h
    · split at h
      · cases h
      · cases h
        omega

/-! ### Other constructs -/

theorem length_cutComment?_le {t before after : Text} (h : cutComment? t = some (before, after)) :
    after.length ≤ t.length := by
  induction t generalizing before with
  | nil => cases h
  | cons c t ih =>
    rw [cutComment?.eq_def] at h
    dsimp only at h
    split at h
    next ending hending =>
      cases h
      split at hending
      next tail =>
        -- blanks may stand between the hyphens and the bracket
        have hblank := length_dropWhile_le isBlank tail
        split at hending
        next heq =>
          cases hending
          rw [heq, List.length_cons] at hblank
          simp only [List.length_cons]
          omega
        next => cases hending
      next => cases hending
    next =>
      obtain ⟨⟨_, _⟩, hcut, heq⟩ := Option.map_eq_some_iff.1 h
      cases heq
      exact Nat.le_succ_of_le (ih hcut)

theorem length_sectionEnd?_le {count : Nat} {t after : Text}
    (h : sectionEnd? count t = some after) :
    after.length ≤ t.length := by
  fun_induction sectionEnd? count t with
  | case1 rest =>
    cases h
    exact Nat.le_succ _
  | case2 count rest ih =>
    exact Nat.le_succ_of_le (Nat.le_trans (ih h) (length_dropWhile_le _ _))
  | case3 => cases h

theorem length_cutSection?_le {count : Nat} {t before after : Text}
    (h : cutSection? count t = some (before, after)) : after.length ≤ t.length := by
  induction t generalizing before with
  | nil => cases h
  | cons c t ih =>
    rw [cutSection?] at h
    split at h
    next hend =>
      cases h
      exact length_sectionEnd?_le hend
    next =>
      obtain ⟨⟨_, _⟩, hcut, heq⟩ := Option.map_eq_some_iff.1 h
      cases heq
      exact Nat.le_succ_of_le (ih hcut)

theorem length_scanEndTag_le {t rest : Text} {tokens : List Token} {raw : Option Text}
    (h : scanEndTag t = some (tokens, raw, rest)) : rest.length ≤ t.length := by
  obtain ⟨⟨_, _⟩, hcut, heq⟩ := Option.map_eq_some_iff.1 h
  cases heq
  exact Nat.le_of_lt (Text.length_cut?_lt hcut)

theorem length_scanSection_le {t rest : Text} {tokens : List Token} {raw : Option Text}
    (h : scanSection t = .ok (some (tokens, raw, rest))) : rest.length ≤ t.length := by
  cases t with
  | nil => cases h
  | cons c t =>
    rw [scanSection] at h
    split at h
    · dsimp only at h
      split at h
      · cases h
      · split at h
        · cases h
        · obtain ⟨⟨_, _⟩, hcut, heq⟩ := Option.map_eq_some_iff.1 (Except.ok.inj h)
          cases heq
          exact length_cutSection?_le hcut
    · cases h

theorem length_scanDeclaration_le {t rest : Text} {tokens : List Token} {raw : Option Text}
    (h : scanDeclaration t = .ok (some (tokens, raw, rest))) : rest.length ≤ t.length := by
  rw [scanDeclaration.eq_def] at h
  split at h
  · exact Nat.le_succ_of_le (length_scanSection_le h)
  · obtain ⟨⟨_, _⟩, hcut, heq⟩ := Option.map_eq_some_iff.1 (Except.ok.inj h)
    have hlt := Text.length_cut?_lt hcut
    dsimp only at heq
    split at heq <;> cases heq <;> exact Nat.le_of_lt hlt

theorem length_scanTag_le {t rest : Text} {tokens : List Token} {raw : Option Text}
    (h : scanTag t = .ok (some (tokens, raw, rest))) : rest.length ≤ t.length := by
  rw [scanTag] at h
  split at h
  · cases h
  next hread =>
    cases h
    exact length_readTag_le (by rw [hread]; rfl)
  next hread =>
    split at h
    · cases h
    · cases h
      exact length_readTag_le (by rw [hread]; rfl)

/-- What a construct leaves to be read is not longer than what follows its opening bracket. -/
theorem length_scanConstruct_le {t rest : Text} {tokens : List Token} {raw : Option Text}
    (h : scanConstruct t = .ok (some (tokens, raw, rest))) : rest.length ≤ t.length := by
  rw [scanConstruct.eq_def] at h
  split at h
  · exact Nat.le_succ_of_le (length_scanEndTag_le (Except.ok.inj h))
  · obtain ⟨⟨_, _⟩, hcut, heq⟩ := Option.map_eq_some_iff.1 (Except.ok.inj h)
    cases heq
    have hle := length_cutComment?_le hcut
    simp only [List.length_cons]
    omega
  · obtain ⟨⟨_, _⟩, hcut, heq⟩ := Option.map_eq_some_iff.1 (Except.ok.inj h)
    cases heq
    exact Nat.le_succ_of_le (Nat.le_of_lt (Text.length_cut?_lt hcut))
  · exact Nat.le_succ_of_le (length_scanDeclaration_le h)
  · exact length_scanTag_le h

/-! ### Steps -/

theorem length_cutUnfinished_le (t : Text) : (cutUnfinished t).2.length ≤ t.length := by
  rw [cutUnfinished]
  split
  next hcut => exact Nat.le_of_lt (Text.length_cut?_lt hcut)
  next =>
    split
    next hcut => exact Text.length_cut?_lt hcut
    next => exact Nat.le_refl _

theorem length_stepBracket_le {final : Bool} {t rest : Text} {tokens : List Token}
    {raw : Option Text} (h : stepBracket final t = .ok (.more tokens raw rest)) :
    rest.length ≤ t.length := by
  rw [stepBracket.eq_def] at h
  split at h
  · cases h
  · split at h
    · split at h
      · cases h
      next hscan =>
        -- the scanner goes on after the construct, or after what is left of one
        cases h
        exact length_scanConstruct_le hscan
      · split at h
        · cases h
          exact length_cutUnfinished_le _
        · cases h
    · cases h
      exact Nat.le_refl _

theorem length_numericDigits?_le {t after : Text} {digits : Digits}
    (h : numericDigits? t = some (digits, after)) : after.length ≤ t.length := by
  cases t with
  | nil => cases h
  | cons c t =>
    rw [numericDigits?] at h
    split at h
    · cases h
      exact length_dropWhile_le _ _
    · split at h
      · dsimp only at h
        split at h
        · cases h
        · cases h
          exact Nat.le_succ_of_le (length_dropWhile_le _ _)
      · cases h

theorem length_skipSemicolon_le (t : Text) : (skipSemicolon t).length ≤ t.length := by
  rw [skipSemicolon.eq_def]
  split
  · exact Nat.le_succ _
  · exact Nat.le_refl _

theorem length_stepNumeric_le {t rest : Text} {tokens : List Token} {raw : Option Text}
    (h : stepNumeric t = .ok (.more tokens raw rest)) : rest.length ≤ t.length := by
  rw [stepNumeric] at h
  split at h
  · split at h <;> cases h
  next hdigits =>
    have hafter := length_numericDigits?_le hdigits
    split at h
    · split at h <;> cases h
    · split at h
      · split at h <;> cases h
      · split at h
        · cases h
        · cases h
          exact Nat.le_trans (length_skipSemicolon_le _) hafter

theorem length_entityName?_le {t name after : Text} (h : entityName? t = some (name, after)) :
    after.length ≤ t.length := by
  cases t with
  | nil => cases h
  | cons c t =>
    -- a known name may be shorter than the run of characters that it starts
    have hrun := (List.takeWhile_prefix (l := t) isEntityChar).length_le
    have hrest := length_dropWhile_le isEntityChar t
    rw [entityName?] at h
    split at h
    · dsimp only at h
      split at h
      · split at h
        · cases h
        · cases h
          rw [List.length_drop, List.length_cons]
          omega
      · cases h
        rw [List.length_cons]
        omega
    · cases h

theorem length_stepNamed_le {final : Bool} {t rest : Text} {tokens : List Token}
    {raw : Option Text} (h : stepNamed final t = .more tokens raw rest) :
    rest.length ≤ t.length := by
  rw [stepNamed.eq_def] at h
  split at h
  next hname =>
    cases h
    exact Nat.le_trans (length_skipSemicolon_le _) (length_entityName?_le hname)
  · split at h
    · cases h
    · split at h
      · split at h <;> cases h
      · cases h
        exact Nat.le_refl _

theorem length_cutRaw?_le {name t before after : Text} (h : cutRaw? name t = some (before, after)) :
    after.length ≤ t.length := by
  induction t generalizing before with
  | nil => cases h
  | cons c t ih =>
    rw [cutRaw?] at h
    split at h
    · cases h
      exact Nat.le_refl _
    · obtain ⟨⟨_, _⟩, hcut, heq⟩ := Option.map_eq_some_iff.1 h
      cases heq
      exact Nat.le_succ_of_le (ih hcut)

theorem length_stepRaw_lt {name t rest : Text} {tokens : List Token} {raw : Option Text}
    (h : stepRaw name t = .more tokens raw rest) : rest.length < t.length := by
  rw [stepRaw] at h
  split at h
  · cases h
  next before after hraw =>
    have hafter := length_cutRaw?_le hraw
    split at h
    · cases h
    next inside left hcut =>
      have hlt := Text.length_cut?_lt hcut
      rw [List.length_drop] at hlt
      split at h <;> cases h <;> omega

/-- A step of the scanner that goes on has taken at least one character. -/
theorem length_step_lt {final : Bool} {raw raw' : Option Text} {t rest : Text}
    {tokens : List Token} (h : step final raw t = .ok (.more tokens raw' rest)) :
    rest.length < t.length := by
  rw [step.eq_def] at h
  split at h
  · exact length_stepRaw_lt (Except.ok.inj h)
  · split at h
    · cases h
    · exact Nat.lt_succ_of_le (length_stepBracket_le h)
    · exact Nat.lt_succ_of_le (Nat.le_succ_of_le (length_stepNumeric_le h))
    · exact Nat.lt_succ_of_le (length_stepNamed_le (Except.ok.inj h))
    next hnil hbracket _ hand =>
      -- a character that starts no construct is taken with all plain ones after it
      cases t with
      | nil => exact absurd rfl hnil
      | cons c t =>
        have hplain : isPlainChar c := by
          simp only [isPlainChar, Bool.not_eq_true', Bool.or_eq_false_iff, decide_eq_false_iff_not]
          exact ⟨fun hc => hbracket t (by rw [hc]), fun hc => hand t (by rw [hc])⟩
        cases h
        rw [List.dropWhile_cons_of_pos hplain]
        exact Nat.lt_succ_of_le (length_dropWhile_le _ _)

end Markup

end Componentry
