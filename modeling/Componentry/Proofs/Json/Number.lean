import Componentry.Json.Reader
import Componentry.Proofs.Numeral.Written

/-!
# Numbers read back

A number is read from a text that it starts, and what follows it is left, unless that continues the
number.

* `readAtom_ofInt`: the text of an integer;
* `readAtom_toText`: the text of a number of the binary format.
-/

namespace Componentry.Json

open Numeral

/-- A text does not continue a number. -/
def EndsNumber (rest : Text) : Prop := ∀ c ∈ rest.head?, ¬ c.isDigit ∧ c ∉ ['.', 'e', 'E']

variable {w : Written} {rest : Text}

theorem head?_powerText_append (hrest : EndsNumber rest) :
    ∀ c ∈ (w.powerText ++ rest).head?, ¬ c.isDigit ∧ c ≠ '.' := by
  intro c hc
  rw [Written.powerText] at hc
  split at hc
  · exact ⟨(hrest c hc).1, fun h => (hrest c hc).2 (h ▸ List.mem_cons_self)⟩
  · cases hc
    decide

theorem fractionPart_append (hw : w.WellFormed) (hrest : EndsNumber rest) :
    fractionPart (w.fractionText ++ (w.powerText ++ rest)) =
      (w.fractionText, w.powerText ++ rest) := by
  have hhead := head?_powerText_append (w := w) hrest
  have hdigit : ∀ c ∈ (w.powerText ++ rest).head?, ¬ c.isDigit := fun c hc => (hhead c hc).1
  rw [Written.fractionText]
  split
  · -- what follows is not taken for a point
    rw [List.nil_append, fractionPart.eq_def]
    split
    next heq =>
      rw [heq] at hhead
      exact absurd rfl (hhead '.' rfl).2
    next => rfl
  · next hfraction =>
    rw [List.cons_append, fractionPart, Text.takeWhile_append_eq hw.fraction hdigit,
      Text.dropWhile_append_eq hw.fraction hdigit, if_neg hfraction]

theorem exponentPart_append (hw : w.WellFormed) (hrest : EndsNumber rest) :
    exponentPart (w.powerText ++ rest) = (w.powerText, rest) := by
  rw [Written.powerText]
  split
  · -- what follows is not taken for an exponent
    cases rest with
    | nil => rfl
    | cons c rest =>
      have hmark : ¬ (decide (c = 'e') || decide (c = 'E')) := by
        have hc := (hrest c rfl).2
        simp only [List.mem_cons, List.not_mem_nil, or_false, not_or] at hc
        simp [hc]
      rw [List.nil_append, exponentPart.eq_def]
      dsimp only
      rw [if_neg hmark]
  · next negative digits hpower =>
    obtain ⟨hne, hdigits⟩ := hw.power _ hpower
    have hdigit : ∀ c ∈ rest.head?, ¬ c.isDigit := fun c hc => (hrest c hc).1
    dsimp only at hne hdigits
    have htake := Text.takeWhile_append_eq hdigits hdigit
    have hdrop := Text.dropWhile_append_eq hdigits hdigit
    cases negative <;> simp [exponentPart, htake, hdrop, hne]

/-- The digits before the point are those that are read first: a single zero, or all of them. -/
theorem wholeDigits_append (hw : w.WellFormed) (hrest : EndsNumber rest) {c : Char} {more : Text}
    (hcons : w.whole = c :: more) :
    (if c = '0' then ['0'] else (w.text ++ rest).takeWhile Char.isDigit) = w.whole ∧
      (if c = '0' then more ++ (w.fractionText ++ (w.powerText ++ rest))
        else (w.text ++ rest).dropWhile Char.isDigit) =
      w.fractionText ++ (w.powerText ++ rest) := by
  -- no digit follows those before the point
  have hhead : ∀ c ∈ (w.fractionText ++ (w.powerText ++ rest)).head?, ¬ c.isDigit := by
    intro c hc
    rw [Written.fractionText] at hc
    split at hc
    · exact (head?_powerText_append hrest c hc).1
    · cases hc
      decide
  split
  next hzero =>
    rcases hw.start with hwhole | ⟨d, rest', hwhole, hd⟩
    · rw [hwhole] at hcons ⊢
      rw [← (List.cons.inj hcons).2]
      exact ⟨rfl, rfl⟩
    · rw [hwhole] at hcons
      exact absurd ((List.cons.inj hcons).1.trans hzero) hd
  next =>
    rw [Written.text, List.append_assoc, List.append_assoc,
      Text.takeWhile_append_eq hw.whole hhead, Text.dropWhile_append_eq hw.whole hhead]
    exact ⟨rfl, rfl⟩

/-- A number is read off a text that it starts: as an integer if it has digits only, and else as a
number of the binary format. -/
theorem readUnsigned_append (hw : w.WellFormed) (hrest : EndsNumber rest) (whole sign : Text) :
    (w.fractionText.isEmpty && w.powerText.isEmpty → ∀ n,
        readInteger (sign ++ w.whole) = .ok n →
          readUnsigned whole sign (w.text ++ rest) = .ok (.int n, rest)) ∧
      (¬ (w.fractionText.isEmpty && w.powerText.isEmpty) → ∀ x,
        Double.read? (sign ++ w.text) = some x →
          readUnsigned whole sign (w.text ++ rest) = .ok (.float x, rest)) := by
  obtain ⟨c, more, hcons, hc, htext⟩ := hw.text_eq_cons
  have hstart : w.text ++ rest = c :: (more ++ (w.fractionText ++ (w.powerText ++ rest))) := by
    rw [htext]
    simp
  have hdigits := wholeDigits_append hw hrest hcons
  have hsigned : sign ++ w.text = sign ++ w.whole ++ w.fractionText ++ w.powerText := by
    rw [Written.text, List.append_assoc, List.append_assoc]
  rw [hsigned]
  rw [hstart] at hdigits ⊢
  -- the three parts are read one after the other
  simp only [readUnsigned, if_pos hc, hdigits.1, hdigits.2, fractionPart_append hw hrest,
    exponentPart_append hw hrest]
  refine ⟨fun hwhole n hn => ?_, fun hfractional x hx => ?_⟩
  · rw [if_pos hwhole, hn]
  · rw [if_neg hfractional, hx]

/-! ### Numbers with a sign -/

/-- A text that starts with a digit, perhaps after a minus sign, starts with no word. -/
theorem findSome?_words {negative : Bool} {c : Char} {more : Text} (hc : c.isDigit) :
    (words.findSome? fun (word, value) =>
      (Text.dropPrefix? word ((if negative then ['-'] else []) ++ c :: more)).map ((value, ·))) =
      none := by
  have hfirst : ∀ d : Char, ¬ d.isDigit → d ≠ c := by
    rintro d hd rfl
    exact hd hc
  have hn : 'n' ≠ c := hfirst _ (by decide)
  have ht : 't' ≠ c := hfirst _ (by decide)
  have hf : 'f' ≠ c := hfirst _ (by decide)
  have hN : 'N' ≠ c := hfirst _ (by decide)
  have hI : 'I' ≠ c := hfirst _ (by decide)
  have hminus : '-' ≠ c := hfirst _ (by decide)
  cases negative <;> simp [words, Text.dropPrefix?, hn, ht, hf, hN, hI, hminus]

/-- A sign and a number are read off a text that they start. -/
theorem readAtom_append (hw : w.WellFormed) (rest : Text) (negative : Bool) :
    readAtom ((if negative then ['-'] else []) ++ w.text ++ rest) =
      readUnsigned ((if negative then ['-'] else []) ++ w.text ++ rest)
        (if negative then ['-'] else []) (w.text ++ rest) := by
  obtain ⟨c, more, -, hc, htext⟩ := hw.text_eq_cons
  have hminus : c ≠ '-' := by
    rintro rfl
    cases hc
  rw [List.append_assoc, htext, List.cons_append, readAtom.eq_def, findSome?_words hc]
  dsimp only
  cases negative with
  | true => rfl
  | false =>
    split
    next body heq => exact absurd (List.cons.inj heq).1 hminus
    next => rfl

/-- The text of a number of the binary format is read back. -/
theorem readAtom_toText {negative : Bool} {m : Nat} {e : Int}
    (hcanonical : (Double.finite negative m e).Canonical) (hrest : EndsNumber rest) :
    readAtom ((Double.finite negative m e).toText ++ rest) =
      .ok (.float (.finite negative m e), rest) := by
  have hread := Double.read?_toText hcanonical
  have hw := Double.wellFormed_parts hcanonical
  have hfractional : ¬ ((Double.parts m e).fractionText.isEmpty &&
      (Double.parts m e).powerText.isEmpty) := by
    rw [Bool.not_eq_true, Bool.and_eq_false_iff, List.isEmpty_eq_false_iff,
      List.isEmpty_eq_false_iff]
    exact Double.fractional_parts hcanonical
  rw [Double.toText_eq hcanonical] at hread ⊢
  rw [readAtom_append hw]
  exact (readUnsigned_append hw hrest _ _).2 hfractional _ hread

/-- The digits of an integer as a numeral. -/
def integerParts (n : Nat) : Written := ⟨Text.ofNat n, [], none⟩

theorem text_integerParts (n : Nat) : (integerParts n).text = Text.ofNat n := List.append_nil _

theorem wellFormed_integerParts (n : Nat) : (integerParts n).WellFormed := by
  refine ⟨fun c => Text.isDigit_of_mem_ofNat, ?_, List.forall_mem_nil _, fun _ h => nomatch h⟩
  rcases Nat.eq_zero_or_pos n with rfl | hn
  · exact .inl rfl
  · obtain ⟨c, more, hcons⟩ := List.exists_cons_of_ne_nil (Text.ofNat_ne_nil n)
    have hhead := Text.head?_ofNat_ne_zero hn
    rw [hcons] at hhead
    exact .inr ⟨c, more, hcons, hhead c rfl⟩

theorem ofInt_eq (n : Int) :
    Text.ofInt n = (if decide (n < 0) then ['-'] else []) ++ Text.ofNat n.natAbs := by
  cases n with
  | ofNat n => rw [decide_eq_false (by simp)]; rfl
  | negSucc n => rw [decide_eq_true (Int.negSucc_lt_zero n)]; rfl

/-- Digits with a sign are read as an integer, unless there are too many of them. -/
theorem readInteger_ofInt {n : Int} (hlength : (Text.ofNat n.natAbs).length ≤ maxDigits) :
    readInteger (Text.ofInt n) = .ok n := by
  have hnatural : ∀ source, readNatural source (Text.ofNat n.natAbs) = .ok n.natAbs := by
    intro source
    rw [readNatural_eq (fun c => Text.isDigit_of_mem_ofNat) (Text.ofNat_ne_nil _),
      if_neg (Nat.not_lt.2 hlength), digitsValue_ofNat]
  have hplain : plain (Text.ofInt n) = Text.ofInt n :=
    Written.plain_eq_self Written.isNumeralChar_of_mem_ofInt
  rw [readInteger, hplain]
  cases n with
  | ofNat n =>
    -- the first character is a digit and no sign
    have hsign : ∀ c rest, Text.ofNat n = c :: rest → c.isDigit := fun c rest heq =>
      Text.isDigit_of_mem_ofNat (heq ▸ List.mem_cons_self)
    rw [Text.ofInt]
    split
    next heq => exact absurd (hsign _ _ heq) (by decide)
    next heq => exact absurd (hsign _ _ heq) (by decide)
    next =>
      have hread := hnatural (Text.ofNat n)
      rw [Int.natAbs_ofNat'] at hread
      rw [hread]
      rfl
  | negSucc n =>
    have hread : readNatural ('-' :: Text.ofNat (n + 1)) (Text.ofNat (n + 1)) = .ok (n + 1) :=
      hnatural _
    rw [Text.ofInt]
    simp only [hread]
    rfl

/-- The text of an integer is read back, unless it has too many digits. -/
theorem readAtom_ofInt {n : Int} (hlength : (Text.ofNat n.natAbs).length ≤ maxDigits)
    (hrest : EndsNumber rest) : readAtom (Text.ofInt n ++ rest) = .ok (.int n, rest) := by
  have hw := wellFormed_integerParts n.natAbs
  have hread := readInteger_ofInt hlength
  rw [ofInt_eq] at hread ⊢
  rw [← text_integerParts, readAtom_append hw]
  exact (readUnsigned_append hw hrest _ _).1 rfl n hread

end Componentry.Json
