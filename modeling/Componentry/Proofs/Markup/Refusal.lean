import Componentry.Markup.Document
import Componentry.Proofs.Markup.Scan
import Componentry.Proofs.Numeral.Integer
import Componentry.Proofs.Outcome
import Mathlib.Data.List.TakeWhile

/-!
# Markup that is refused

Reading refuses a markup text for three reasons only: a marked section without a name or with one
that is not known, and a decimal reference of too many digits, in running text or in the value of an
attribute. It does so if the scanner gets to a place where one of them stands:

* `Markup.exists_resolveReferences_iff`: when the references in a value are resolved;
* `Markup.exists_step_iff`: when the scanner can make a step;
* `Markup.exists_tokenize_iff`: when a markup text is cut into tokens;
* `Document.exists_parse_iff`: when a markup text is read.
-/

namespace Componentry

namespace Markup

open Numeral

/-! ### References in values -/

/-- A decimal reference of too many digits starts with an ampersand and a number sign before
`t`. -/
def IsOverlongReference (t : Text) : Prop := maxDigits < (t.takeWhile Char.isDigit).length

/-- A value has a decimal reference of too many digits. -/
def HasOverlongReference (value : Text) : Prop :=
  ∃ before after, value = before ++ '&' :: '#' :: after ∧ IsOverlongReference after

theorem hasOverlongReference_cons {c : Char} {t : Text} :
    HasOverlongReference (c :: t) ↔
      (c = '&' ∧ ∃ after, t = '#' :: after ∧ IsOverlongReference after) ∨
        HasOverlongReference t := by
  constructor
  · rintro ⟨before, after, heq, hlong⟩
    cases before with
    | nil =>
      obtain ⟨rfl, rfl⟩ := List.cons.inj heq
      exact .inl ⟨rfl, after, rfl, hlong⟩
    | cons d before =>
      obtain ⟨rfl, rfl⟩ := List.cons.inj heq
      exact .inr ⟨before, after, rfl, hlong⟩
  · rintro (⟨rfl, after, rfl, hlong⟩ | ⟨before, after, rfl, hlong⟩)
    · exact ⟨[], after, rfl, hlong⟩
    · exact ⟨c :: before, after, rfl, hlong⟩

/-- Characters other than an ampersand can be left out. -/
theorem hasOverlongReference_drop {t : Text} {k : Nat} (h : ∀ c ∈ t.take k, c ≠ '&') :
    HasOverlongReference (t.drop k) ↔ HasOverlongReference t := by
  induction k generalizing t with
  | zero => rw [List.drop_zero]
  | succ k ih =>
    cases t with
    | nil => rw [List.drop_nil]
    | cons c t =>
      rw [List.take_succ_cons, List.forall_mem_cons] at h
      -- the first character starts no reference
      rw [List.drop_succ_cons, ih h.2, hasOverlongReference_cons]
      exact ⟨.inr, fun hor => hor.resolve_left fun hand => h.1 hand.1⟩

theorem not_hasOverlongReference_nil : ¬ HasOverlongReference [] := by
  rintro ⟨before, after, heq, -⟩
  cases before <;> cases heq

theorem resolveFrom_eq_drop (skip : Nat) (t : Text) :
    resolveFrom skip t = resolveFrom 0 (t.drop skip) := by
  induction t generalizing skip with
  | nil => cases skip <;> rfl
  | cons c t ih =>
    cases skip with
    | zero => rfl
    | succ skip =>
      rw [resolveFrom, ih, List.drop_succ_cons]

theorem exists_decimal_iff {digits : Text} (h : ∀ c ∈ digits, c.isDigit) (hne : digits ≠ []) :
    (∃ n, (Digits.decimal digits).value = .ok n) ↔ ¬ maxDigits < digits.length := by
  have hread : (∃ n, readNatural digits digits = .ok n) ↔ _ := exists_readNatural_iff h hne
  rw [Nat.not_lt, ← hread]
  rfl

/-- The digits of a reference have a value unless there are too many of them. -/
theorem exists_digits_iff {t after : Text} {digits : Digits}
    (h : numericDigits? t = some (digits, after)) :
    (∃ n, digits.value = .ok n) ↔ ¬ IsOverlongReference t := by
  cases t with
  | nil => cases h
  | cons c t =>
    rw [numericDigits?] at h
    split at h
    next hdigit =>
      cases h
      exact exists_decimal_iff (fun _ => List.mem_takeWhile_imp)
        (by rw [List.takeWhile_cons_of_pos hdigit]; exact List.cons_ne_nil _ _)
    next hdigit =>
      split at h
      · dsimp only at h
        split at h
        · cases h
        · cases h
          -- a hexadecimal reference always has a value, and no decimal digits
          refine ⟨fun _ hlong => ?_, fun _ => ⟨_, rfl⟩⟩
          rw [IsOverlongReference, List.takeWhile_cons_of_neg hdigit] at hlong
          exact Nat.not_lt_zero _ hlong
      · cases h

theorem not_isOverlongReference_of_none {t : Text} (h : numericDigits? t = none) :
    ¬ IsOverlongReference t := by
  intro hlong
  cases t with
  | nil => exact Nat.not_lt_zero _ hlong
  | cons c t =>
    have hdigit : c.isDigit := by
      by_contra hdigit
      rw [IsOverlongReference, List.takeWhile_cons_of_neg hdigit] at hlong
      exact Nat.not_lt_zero _ hlong
    rw [numericDigits?, if_pos hdigit] at h
    cases h

/-- What a text starts with holds no ampersand. -/
def StartsPlain (t rest : Text) : Prop := ∃ start, t = start ++ rest ∧ ∀ c ∈ start, c ≠ '&'

theorem StartsPlain.trans {t u v : Text} (htu : StartsPlain t u) (huv : StartsPlain u v) :
    StartsPlain t v := by
  obtain ⟨start, rfl, hstart⟩ := htu
  obtain ⟨more, rfl, hmore⟩ := huv
  refine ⟨start ++ more, by rw [List.append_assoc], fun c hc => ?_⟩
  exact (List.mem_append.1 hc).elim (hstart c) (hmore c)

theorem StartsPlain.cons {t rest : Text} (h : StartsPlain t rest) {c : Char} (hc : c ≠ '&') :
    StartsPlain (c :: t) rest := by
  obtain ⟨start, rfl, hstart⟩ := h
  exact ⟨c :: start, rfl, List.forall_mem_cons.2 ⟨hc, hstart⟩⟩

theorem startsPlain_dropWhile {p : Char → Bool} (hp : ¬ p '&') (t : Text) :
    StartsPlain t (t.dropWhile p) := by
  refine ⟨t.takeWhile p, List.takeWhile_append_dropWhile.symm, fun c hc hand => hp ?_⟩
  exact hand ▸ List.mem_takeWhile_imp hc

theorem startsPlain_skipSemicolon (t : Text) : StartsPlain t (skipSemicolon t) := by
  rw [skipSemicolon.eq_def]
  split
  · exact ⟨[';'], rfl, by simp⟩
  · exact ⟨[], rfl, by simp⟩

theorem StartsPlain.take {t rest : Text} (h : StartsPlain t rest) :
    ∀ c ∈ t.take (t.length - rest.length), c ≠ '&' := by
  obtain ⟨start, rfl, hstart⟩ := h
  rw [List.length_append, Nat.add_sub_cancel, List.take_left']
  · exact hstart
  · rfl

theorem startsPlain_numericDigits? {t after : Text} {digits : Digits}
    (h : numericDigits? t = some (digits, after)) : StartsPlain t after := by
  cases t with
  | nil => cases h
  | cons c t =>
    rw [numericDigits?] at h
    split at h
    · cases h
      exact startsPlain_dropWhile (by decide) _
    · split at h
      next hx =>
        dsimp only at h
        split at h
        · cases h
        · cases h
          -- the letter of a hexadecimal reference is no ampersand
          refine (startsPlain_dropWhile (by decide) _).cons ?_
          rintro rfl
          cases hx
      · cases h

/-- A reference in a value ends before the next ampersand. -/
theorem plain_of_valueReference? {rest : Text} {result : Except IntegerError Text} {length : Nat}
    (h : valueReference? rest = some (result, length)) : ∀ c ∈ rest.take length, c ≠ '&' := by
  rw [valueReference?.eq_def] at h
  split at h
  next body =>
    obtain ⟨⟨digits, after⟩, hdigits, heq⟩ := Option.map_eq_some_iff.1 h
    obtain ⟨-, rfl⟩ := Prod.mk.inj heq
    -- digits and a semicolon after them are no ampersands
    have hplain := (startsPlain_numericDigits? hdigits).trans (startsPlain_skipSemicolon after)
    exact (hplain.cons (by decide)).take
  next =>
    -- neither is a character of a name
    have hname : ∀ c ∈ (rest.takeWhile isValueNameChar).take 32, c ≠ '&' := by
      rintro c hc rfl
      exact absurd (List.mem_takeWhile_imp (List.mem_of_mem_take hc)) (by decide)
    have hprefix : (rest.takeWhile isValueNameChar).take 32 <+: rest :=
      (List.take_prefix _ _).trans (List.takeWhile_prefix _)
    generalize (rest.takeWhile isValueNameChar).take 32 = name at h hname hprefix
    obtain ⟨tail, rfl⟩ := hprefix
    dsimp only at h
    split at h
    · cases h
    · split at h
      next hsemicolon =>
        cases h
        rw [List.drop_left'] at hsemicolon
        · cases tail with
          | nil => cases hsemicolon
          | cons d tail =>
            obtain rfl := Option.some.inj hsemicolon
            intro c hc
            rw [List.take_append, List.take_of_length_le (Nat.le_succ _), List.mem_append] at hc
            -- the reference is the name and the semicolon after it
            rcases hc with hc | hc
            · exact hname c hc
            · rw [Nat.add_sub_cancel_left] at hc
              obtain rfl := List.mem_singleton.1 hc
              decide
        · rfl
      · cases h
        rw [List.take_left']
        · exact hname
        · rfl

/-- A reference in a value is resolved unless it is a decimal one of too many digits. -/
theorem valueReference?_error_iff {rest : Text} :
    (∃ error length, valueReference? rest = some (.error error, length)) ↔
      ∃ after, rest = '#' :: after ∧ IsOverlongReference after := by
  rw [valueReference?.eq_def]
  split
  next body =>
    have hsame : (∃ after, '#' :: body = '#' :: after ∧ IsOverlongReference after) ↔
        IsOverlongReference body := by simp
    rw [hsame]
    cases hdigits : numericDigits? body with
    | none => simp [not_isOverlongReference_of_none hdigits]
    | some pair =>
      obtain ⟨digits, after⟩ := pair
      -- the digits decide whether the reference has a value
      have hvalue := exists_digits_iff hdigits
      cases hresult : digits.value with
      | error error =>
        rw [hresult] at hvalue
        simp only [reduceCtorEq, exists_false, false_iff, not_not] at hvalue
        simpa [hresult, Except.map] using hvalue
      | ok n =>
        rw [hresult] at hvalue
        simp only [Except.ok.injEq, exists_eq', true_iff] at hvalue
        simpa [hresult, Except.map] using hvalue
  next hhash =>
    constructor
    · rintro ⟨error, length, h⟩
      dsimp only at h
      split at h
      · cases h
      · split at h <;> cases h
    · rintro ⟨after, heq, -⟩
      exact absurd heq (hhash after)

/-- The references in a value are resolved unless one of them is a decimal one of too many
digits. -/
theorem exists_resolveReferences_iff {value : Text} :
    (∃ t, resolveReferences value = .ok t) ↔ ¬ HasOverlongReference value := by
  rw [resolveReferences]
  -- a reference takes several characters at once, so the induction is on the length
  induction hlength : value.length using Nat.strong_induction_on generalizing value with
  | _ n ih =>
    cases value with
    | nil => exact ⟨fun _ => not_hasOverlongReference_nil, fun _ => ⟨[], rfl⟩⟩
    | cons c rest =>
      have hrest : ∀ k,
          (∃ t, resolveFrom k rest = .ok t) ↔ ¬ HasOverlongReference (rest.drop k) := by
        intro k
        rw [resolveFrom_eq_drop]
        refine ih (rest.drop k).length ?_ rfl
        rw [← hlength, List.length_cons, List.length_drop]
        omega
      rw [hasOverlongReference_cons, resolveFrom]
      by_cases hand : c = '&'
      · have herror := @valueReference?_error_iff rest
        rw [if_pos hand]
        cases href : valueReference? rest with
        | none =>
          rw [href] at herror
          simp only [reduceCtorEq, exists_false, false_iff] at herror
          dsimp only
          rw [Except.exists_map_ok_iff, hrest 0, List.drop_zero]
          simp only [hand, herror, true_and, false_or]
        | some pair =>
          obtain ⟨result, length⟩ := pair
          rw [href] at herror
          cases result with
          | error error =>
            have hnow := herror.1 ⟨error, length, rfl⟩
            constructor
            · rintro ⟨t, ht⟩
              cases ht
            · intro hnot
              exact absurd (Or.inl ⟨hand, hnow⟩) hnot
          | ok text =>
            simp only [Option.some.injEq, Prod.mk.injEq, reduceCtorEq, false_and, exists_false,
              false_iff] at herror
            dsimp only
            -- what a resolved reference takes has no reference in it
            rw [Except.exists_map_ok_iff, hrest length,
              hasOverlongReference_drop (plain_of_valueReference? href)]
            simp only [hand, herror, true_and, false_or]
      · rw [if_neg hand, Except.exists_map_ok_iff, hrest 0, List.drop_zero]
        simp only [hand, false_and, false_or]

/-! ### Places where markup is refused -/

theorem exists_resolveAttributes_iff {attributes : List (Text × Text)} :
    (∃ resolved, resolveAttributes attributes = .ok resolved) ↔
      ∀ pair ∈ attributes, ¬ HasOverlongReference pair.2 := by
  induction attributes with
  | nil => simp [resolveAttributes]
  | cons pair attributes ih =>
    obtain ⟨name, value⟩ := pair
    rw [List.forall_mem_cons, ← ih, ← exists_resolveReferences_iff, resolveAttributes]
    constructor
    · rintro ⟨resolved, h⟩
      obtain ⟨first, hfirst, h⟩ := Except.bind_eq_ok.1 h
      obtain ⟨rest, hrest, -⟩ := Except.bind_eq_ok.1 h
      exact ⟨⟨first, hfirst⟩, ⟨rest, hrest⟩⟩
    · rintro ⟨⟨first, hfirst⟩, ⟨rest, hrest⟩⟩
      exact ⟨_, Except.bind_eq_ok.2 ⟨first, hfirst, Except.bind_eq_ok.2 ⟨rest, hrest, rfl⟩⟩⟩

/-- The start tag whose opening bracket precedes `t` has an attribute with a decimal reference of
too many digits. -/
def HasOverlongAttribute (t : Text) : Prop :=
  ∃ name attributes closed rest, readTag t = .tag name attributes closed rest ∧
    ∃ pair ∈ attributes, HasOverlongReference pair.2

/-- The marked section whose brackets and exclamation mark precede a text is refused: it has no
name, or one that is not known and is not all that is left. -/
inductive IsBadSection : Text → Prop
  /-- The section has no name. -/
  | unnamed {c : Char} {rest : Text} : ¬ c.isAlpha → IsBadSection (c :: rest)
  /-- The section has an unknown name. -/
  | unknown {c : Char} {rest : Text} : c.isAlpha → ¬ (rest.dropWhile isSectionChar).all isBlank →
      sectionBrackets? ((c :: rest.takeWhile isSectionChar).map Char.toLower) = none →
      IsBadSection (c :: rest)

/-- The numeric reference whose ampersand and number sign precede `t` is refused: it is a decimal
one of too many digits, and what ends it is no hexadecimal digit. -/
def IsBadReference (t : Text) : Prop :=
  IsOverlongReference t ∧ ∃ c rest, t.dropWhile Char.isDigit = c :: rest ∧ ¬ isHexDigit c

/-- The scanner refuses the markup at the start of a text. -/
def IsRefusedAt : Text → Prop
  | '<' :: '!' :: '[' :: t => IsBadSection t
  | '<' :: t => HasOverlongAttribute t
  | '&' :: '#' :: t => IsBadReference t
  | _ => False

theorem exists_scanTag_iff {t : Text} :
    (∃ construct, scanTag t = .ok construct) ↔ ¬ HasOverlongAttribute t := by
  rw [scanTag]
  split
  next hread =>
    refine ⟨?_, fun _ => ⟨_, rfl⟩⟩
    rintro - ⟨_, _, _, _, htag, -⟩
    rw [hread] at htag
    cases htag
  next hread =>
    refine ⟨?_, fun _ => ⟨_, rfl⟩⟩
    rintro - ⟨_, _, _, _, htag, -⟩
    rw [hread] at htag
    cases htag
  next name attributes closed rest hread =>
    -- only a complete start tag has its attributes resolved
    have hresolve := @exists_resolveAttributes_iff attributes
    constructor
    · rintro ⟨construct, h⟩ ⟨_, _, _, _, htag, pair, hpair, hlong⟩
      rw [hread] at htag
      cases htag
      cases hresolved : resolveAttributes attributes with
      | error error =>
        rw [hresolved] at h
        cases h
      | ok resolved => exact hresolve.1 ⟨resolved, hresolved⟩ pair hpair hlong
    · intro hnot
      obtain ⟨resolved, hresolved⟩ := hresolve.2 fun pair hpair hlong =>
        hnot ⟨name, attributes, closed, rest, hread, pair, hpair, hlong⟩
      rw [hresolved]
      exact ⟨_, rfl⟩

theorem exists_scanSection_iff {t : Text} :
    (∃ construct, scanSection t = .ok construct) ↔ ¬ IsBadSection t := by
  cases t with
  | nil =>
    refine ⟨?_, fun _ => ⟨none, rfl⟩⟩
    rintro - hbad
    cases hbad
  | cons c rest =>
    rw [scanSection]
    by_cases halpha : c.isAlpha
    · rw [if_pos halpha]
      dsimp only
      -- a name that ends the text may go on in what has not been read yet
      by_cases hblank : (rest.dropWhile isSectionChar).all isBlank
      · rw [if_pos hblank]
        refine ⟨?_, fun _ => ⟨none, rfl⟩⟩
        rintro - (hnot | ⟨-, hafter, -⟩)
        · exact hnot halpha
        · exact hafter hblank
      · rw [if_neg hblank]
        cases hcount : sectionBrackets? ((c :: rest.takeWhile isSectionChar).map Char.toLower) with
        | none =>
          constructor
          · rintro ⟨construct, h⟩
            cases h
          · exact fun hnot => absurd (.unknown halpha hblank hcount) hnot
        | some count =>
          refine ⟨?_, fun _ => ⟨_, rfl⟩⟩
          rintro - (hnot | ⟨-, -, hunknown⟩)
          · exact hnot halpha
          · rw [hcount] at hunknown
            cases hunknown
    · rw [if_neg halpha]
      constructor
      · rintro ⟨construct, h⟩
        cases h
      · exact fun hnot => absurd (.unnamed halpha) hnot

theorem not_hasOverlongAttribute {t : Text} (h : ∀ c rest, t = c :: rest → ¬ c.isAlpha) :
    ¬ HasOverlongAttribute t := by
  rintro ⟨_, _, _, _, hread, -⟩
  have hname : tagName? t = none := by
    cases t with
    | nil => rfl
    | cons c rest => rw [tagName?, if_neg (h c rest rfl)]
  rw [readTag, hname] at hread
  cases hread

theorem isRefusedAt_bracket {t : Text} (h : ∀ rest, t ≠ '!' :: '[' :: rest) :
    IsRefusedAt ('<' :: t) ↔ HasOverlongAttribute t := by
  rw [IsRefusedAt.eq_def]
  split
  next rest heq => exact absurd (List.cons.inj heq).2 (h rest)
  next heq => rw [(List.cons.inj heq).2]
  next heq => cases (List.cons.inj heq).1
  next hbracket _ => exact absurd rfl (hbracket t)

theorem exists_scanConstruct_iff {t : Text} :
    (∃ construct, scanConstruct t = .ok construct) ↔ ¬ IsRefusedAt ('<' :: t) := by
  rw [scanConstruct.eq_def]
  split
  next => exact ⟨fun _ => not_hasOverlongAttribute (by simp), fun _ => ⟨_, rfl⟩⟩
  next => exact ⟨fun _ => not_hasOverlongAttribute (by simp), fun _ => ⟨_, rfl⟩⟩
  next => exact ⟨fun _ => not_hasOverlongAttribute (by simp), fun _ => ⟨_, rfl⟩⟩
  next rest _ =>
    rw [scanDeclaration.eq_def]
    split
    next => exact exists_scanSection_iff
    next hbracket =>
      rw [isRefusedAt_bracket fun after heq => hbracket after (List.cons.inj heq).2]
      exact ⟨fun _ => not_hasOverlongAttribute (by simp), fun _ => ⟨_, rfl⟩⟩
  next hslash hcomment hquestion hmark =>
    rw [exists_scanTag_iff, isRefusedAt_bracket fun after heq => hmark _ heq]

theorem exists_stepBracket_iff {final : Bool} {t : Text} :
    (∃ s, stepBracket final t = .ok s) ↔ ¬ IsRefusedAt ('<' :: t) := by
  rw [stepBracket.eq_def]
  split
  next => exact ⟨fun _ => not_hasOverlongAttribute (by simp), fun _ => ⟨_, rfl⟩⟩
  next c rest =>
    by_cases hstarts : startsConstruct c
    · rw [if_pos hstarts, ← exists_scanConstruct_iff]
      cases scanConstruct (c :: rest) with
      | error rejection => simp
      | ok construct =>
        refine ⟨fun _ => ⟨construct, rfl⟩, fun _ => ?_⟩
        cases construct with
        | none => cases final <;> exact ⟨_, rfl⟩
        | some read => exact ⟨_, rfl⟩
    · rw [if_neg hstarts]
      -- no tag starts here, since no letter follows the bracket
      simp only [startsConstruct, Bool.or_eq_true, decide_eq_true_eq, not_or] at hstarts
      obtain ⟨⟨⟨halpha, -⟩, hmark⟩, -⟩ := hstarts
      rw [isRefusedAt_bracket fun after heq => hmark (List.cons.inj heq).1]
      refine ⟨fun _ => not_hasOverlongAttribute fun d after heq => ?_, fun _ => ⟨_, rfl⟩⟩
      obtain rfl := (List.cons.inj heq).1
      exact halpha

theorem after_eq_dropWhile {t after : Text} {digits : Digits}
    (h : numericDigits? t = some (digits, after)) (hlong : IsOverlongReference t) :
    after = t.dropWhile Char.isDigit := by
  cases t with
  | nil => cases h
  | cons c t =>
    rw [numericDigits?] at h
    split at h
    · cases h
      rfl
    next hdigit =>
      rw [IsOverlongReference, List.takeWhile_cons_of_neg hdigit] at hlong
      exact absurd hlong (Nat.not_lt_zero _)

theorem exists_stepNumeric_iff {t : Text} :
    (∃ s, stepNumeric t = .ok s) ↔ ¬ IsBadReference t := by
  rw [stepNumeric]
  cases hdigits : numericDigits? t with
  | none =>
    exact ⟨fun _ hbad => not_isOverlongReference_of_none hdigits hbad.1, fun _ => ⟨_, rfl⟩⟩
  | some pair =>
    obtain ⟨digits, after⟩ := pair
    have hvalue := exists_digits_iff hdigits
    dsimp only
    -- too many digits are refused only if a character after them is there
    by_cases hlong : IsOverlongReference t
    · obtain rfl := after_eq_dropWhile hdigits hlong
      cases hresult : digits.value with
      | ok n => exact absurd hlong (hvalue.1 ⟨n, hresult⟩)
      | error error =>
        cases hafter : t.dropWhile Char.isDigit with
        | nil =>
          refine ⟨?_, fun _ => ⟨_, rfl⟩⟩
          rintro - ⟨-, c, rest, heq, -⟩
          rw [hafter] at heq
          cases heq
        | cons c rest =>
          dsimp only
          by_cases hhex : isHexDigit c
          · rw [if_pos hhex]
            refine ⟨?_, fun _ => ⟨_, rfl⟩⟩
            rintro - ⟨-, d, rest', heq, hnot⟩
            rw [hafter] at heq
            exact hnot ((List.cons.inj heq).1 ▸ hhex)
          · rw [if_neg hhex]
            constructor
            · rintro ⟨s, hs⟩
              cases hs
            · exact fun hnot => absurd ⟨hlong, c, rest, hafter, hhex⟩ hnot
    · obtain ⟨n, hn⟩ := hvalue.2 hlong
      refine ⟨fun _ hbad => hlong hbad.1, fun _ => ?_⟩
      rw [hn]
      split
      · exact ⟨_, rfl⟩
      · split <;> exact ⟨_, rfl⟩

/-- The scanner makes a step unless the text is refused where it is; inside a script or a style
sheet it always does. -/
theorem exists_step_iff {final : Bool} {raw : Option Text} {t : Text} :
    (∃ s, step final raw t = .ok s) ↔ ¬ (raw = none ∧ IsRefusedAt t) := by
  rw [step.eq_def]
  split
  next => simp
  next =>
    simp only [true_and]
    split
    next => exact ⟨fun _ h => h, fun _ => ⟨_, rfl⟩⟩
    next => exact exists_stepBracket_iff
    next => exact exists_stepNumeric_iff
    next hnumber =>
      -- a named reference is always read
      refine ⟨fun _ hbad => ?_, fun _ => ⟨_, rfl⟩⟩
      rw [IsRefusedAt.eq_def] at hbad
      split at hbad
      next heq => cases (List.cons.inj heq).1
      next heq => cases (List.cons.inj heq).1
      next heq => exact hnumber _ (List.cons.inj heq).2
      next => exact hbad
    next hbracket hnumber _ =>
      -- and so are plain characters
      refine ⟨fun _ hbad => ?_, fun _ => ⟨_, rfl⟩⟩
      rw [IsRefusedAt.eq_def] at hbad
      split at hbad
      next => exact hbracket _ rfl
      next => exact hbracket _ rfl
      next => exact hnumber _ rfl
      next => exact hbad

/-! ### The whole text -/

/-- From the place where `t` is left and the scanner is inside the element `raw`, it gets to the
place where `t'` is left and it is inside `raw'`. -/
inductive Reaches (final : Bool) : Option Text → Text → Option Text → Text → Prop
  /-- The scanner is where it is. -/
  | here (raw : Option Text) (t : Text) : Reaches final raw t raw t
  /-- The scanner makes a step. -/
  | more {raw raw' raw'' : Option Text} {t t' rest : Text} {tokens : List Token} :
      step final raw t = .ok (.more tokens raw' rest) → Reaches final raw' rest raw'' t' →
      Reaches final raw t raw'' t'

/-- The scanner gets to a place in the markup text `t`, in its first reading or in its second one,
which starts where the first one has stopped. -/
inductive Meets (t : Text) : Option Text → Text → Prop
  /-- The place is met in the first reading. -/
  | first {raw : Option Text} {rest : Text} : Reaches false none t raw rest → Meets t raw rest
  /-- The place is met in the second reading. -/
  | second {raw raw' : Option Text} {rest left rest' : Text} {tokens : List Token} :
      Reaches false none t raw rest → step false raw rest = .ok (.halt tokens left) →
      Reaches true raw left raw' rest' → Meets t raw' rest'

section Reaches

variable {final : Bool} {raw raw' raw'' : Option Text} {t t' t'' rest : Text} {tokens : List Token}

/-- Where the scanner stops, it gets to no other place. -/
theorem Reaches.eq_of_halt (h : Reaches final raw t raw' t')
    (hstep : step final raw t = .ok (.halt tokens rest)) : raw' = raw ∧ t' = t := by
  cases h with
  | here => exact ⟨rfl, rfl⟩
  | more hmore => cases hstep.symm.trans hmore

/-- Where the scanner makes a step, it gets to the places after the step besides. -/
theorem Reaches.of_more (h : Reaches final raw t raw'' t'')
    (hstep : step final raw t = .ok (.more tokens raw' t')) :
    raw'' = raw ∧ t'' = t ∨ Reaches final raw' t' raw'' t'' := by
  cases h with
  | here => exact .inl ⟨rfl, rfl⟩
  | more hmore hreach =>
    cases hstep.symm.trans hmore
    exact .inr hreach

end Reaches

/-- The reading that is at `p` stops, with `q` as what it leaves. -/
structure StopsWith (final : Bool) (p q : Progress) : Prop where
  /-- The scanner gets to the place where it stops. -/
  stops : ∃ rest tokens, Reaches final p.raw p.rest q.raw rest ∧
    step final q.raw rest = .ok (.halt tokens q.rest)
  /-- It can make a step wherever it gets. -/
  exists_step : ∀ {raw t}, Reaches final p.raw p.rest raw t → ∃ s, step final raw t = .ok s
  /-- It stops at one place only. -/
  unique : ∀ {raw t tokens left}, Reaches final p.raw p.rest raw t →
    step final raw t = .ok (.halt tokens left) → raw = q.raw ∧ left = q.rest

theorem stopsWith_of_halt {final : Bool} {p : Progress} {tokens written : List Token} {left : Text}
    (hstep : step final p.raw p.rest = .ok (.halt tokens left)) :
    StopsWith final p ⟨written, p.raw, left⟩ where
  stops := ⟨p.rest, tokens, .here _ _, hstep⟩
  exists_step hreach := by
    obtain ⟨rfl, rfl⟩ := hreach.eq_of_halt hstep
    exact ⟨_, hstep⟩
  unique hreach hhalt := by
    obtain ⟨rfl, rfl⟩ := hreach.eq_of_halt hstep
    cases hstep.symm.trans hhalt
    exact ⟨rfl, rfl⟩

/-- A step does not change how a reading stops. -/
theorem StopsWith.of_more {final : Bool} {p q : Progress} {tokens written : List Token}
    {raw : Option Text} {rest : Text} (h : StopsWith final ⟨written, raw, rest⟩ q)
    (hstep : step final p.raw p.rest = .ok (.more tokens raw rest)) : StopsWith final p q where
  stops := by
    obtain ⟨last, tokens', hreach, hhalt⟩ := h.stops
    exact ⟨last, tokens', .more hstep hreach, hhalt⟩
  exists_step hreach := by
    rcases hreach.of_more hstep with ⟨rfl, rfl⟩ | hreach
    · exact ⟨_, hstep⟩
    · exact h.exists_step hreach
  unique hreach hhalt := by
    rcases hreach.of_more hstep with ⟨rfl, rfl⟩ | hreach
    · cases hstep.symm.trans hhalt
    · exact h.unique hreach hhalt

/-- With enough steps, a reading stops, or it fails at a place where the scanner can make no
step. -/
theorem steps_cases {final : Bool} {fuel : Nat} {p : Progress} (hfuel : p.rest.length < fuel) :
    (∃ q, steps final fuel p = .ok q ∧ StopsWith final p q) ∨
      ∃ error raw t, steps final fuel p = .error error ∧ Reaches final p.raw p.rest raw t ∧
        ¬ ∃ s, step final raw t = .ok s := by
  induction fuel generalizing p with
  | zero => exact absurd hfuel (Nat.not_lt_zero _)
  | succ fuel ih =>
    rw [steps]
    cases hstep : step final p.raw p.rest with
    | error error => exact .inr ⟨error, p.raw, p.rest, rfl, .here _ _, by simp [hstep]⟩
    | ok s =>
      cases s with
      | halt tokens left => exact .inl ⟨_, rfl, stopsWith_of_halt hstep⟩
      | more tokens raw' rest =>
        -- the step takes a character, so that the steps that are left are enough for the rest
        have hlt := length_step_lt hstep
        have hnext : rest.length < fuel := by omega
        dsimp only
        rcases @ih ⟨tokens.reverse ++ p.tokens, raw', rest⟩ hnext with
          ⟨q, hq, hstops⟩ | ⟨error, raw, t, herror, hreach, hno⟩
        · exact .inl ⟨q, hq, hstops.of_more hstep⟩
        · exact .inr ⟨error, raw, t, herror, .more hstep hreach, hno⟩

/-- A markup text is cut into tokens unless the scanner gets to a place where it is refused. -/
theorem exists_tokenize_iff {t : Text} :
    (∃ tokens, tokenize t = .ok tokens) ↔ ¬ ∃ rest, Meets t none rest ∧ IsRefusedAt rest := by
  have hstuck : ∀ {final : Bool} {raw : Option Text} {t' : Text},
      (¬ ∃ s, step final raw t' = .ok s) → raw = none ∧ IsRefusedAt t' := by
    intro final raw t' hno
    rw [exists_step_iff] at hno
    exact not_not.1 hno
  rw [tokenize]
  rcases @steps_cases false (t.length + 1) ⟨[], none, t⟩ (Nat.lt_succ_self _) with
    ⟨first, hfirst, hstops⟩ | ⟨error, raw, rest, herror, hreach, hno⟩
  · -- the first reading stops, and the second one starts with what it has left
    rw [hfirst]
    rcases @steps_cases true (first.rest.length + 1) first (Nat.lt_succ_self _) with
      ⟨second, hsecond, hstops'⟩ | ⟨error, raw, rest, herror, hreach', hno⟩
    · refine ⟨?_, fun _ => ⟨_, Except.bind_eq_ok.2 ⟨first, rfl, Except.bind_eq_ok.2
        ⟨second, hsecond, rfl⟩⟩⟩⟩
      rintro - ⟨rest, hmeets, hrefused⟩
      cases hmeets with
      | first hr => exact exists_step_iff.1 (hstops.exists_step hr) ⟨rfl, hrefused⟩
      | second hr hh hr' =>
        obtain ⟨rfl, rfl⟩ := hstops.unique hr hh
        exact exists_step_iff.1 (hstops'.exists_step hr') ⟨rfl, hrefused⟩
    · -- the second reading fails at a place that the scanner gets to
      obtain ⟨rfl, hrefused⟩ := hstuck hno
      obtain ⟨stop, tokens, hreach, hhalt⟩ := hstops.stops
      refine ⟨?_, fun hnot => absurd ⟨rest, .second hreach hhalt hreach', hrefused⟩ hnot⟩
      rintro ⟨result, h⟩ -
      obtain ⟨p, hp, h⟩ := Except.bind_eq_ok.1 h
      cases hp
      obtain ⟨q, hq, -⟩ := Except.bind_eq_ok.1 h
      rw [herror] at hq
      cases hq
  · -- the first reading fails at a place that the scanner gets to
    obtain ⟨rfl, hrefused⟩ := hstuck hno
    refine ⟨?_, fun hnot => absurd ⟨rest, .first hreach, hrefused⟩ hnot⟩
    rintro ⟨result, h⟩ -
    obtain ⟨p, hp, -⟩ := Except.bind_eq_ok.1 h
    rw [herror] at hp
    cases hp

end Markup

namespace Document

/-- A document is read unless the scanner gets to a place where its markup is refused. -/
theorem exists_parse_iff {rule : Markup.SlashRule} {markup : Text} :
    (∃ document, parse rule markup = .ok document) ↔
      ¬ ∃ rest, Markup.Meets (markup.filter (· ≠ '\uFEFF')) none rest ∧
        Markup.IsRefusedAt rest := by
  rw [← Markup.exists_tokenize_iff]
  constructor
  · rintro ⟨document, h⟩
    obtain ⟨sources, hsources, -⟩ := Except.map_eq_ok.1 h
    obtain ⟨tokens, htokens, -⟩ := Except.bind_eq_ok.1 hsources
    exact ⟨tokens, htokens⟩
  · rintro ⟨tokens, htokens⟩
    exact ⟨_, Except.map_eq_ok.2 ⟨_, Except.bind_eq_ok.2 ⟨tokens, htokens, rfl⟩, rfl⟩⟩

end Document

end Componentry
