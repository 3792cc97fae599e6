import Componentry.Proofs.CommandLine.Options
import Componentry.Proofs.Numeral.Lenient
import Componentry.Proofs.Session.Theme

/-!
# Two notations of a theme

The theme command takes the channels of a theme as three words, and the conversion command takes
them as one word with two commas. The words are read by different readers, which agree on numerals
of ASCII digits. A word that starts with a dash is an option for the conversion command, unless it
has a space.

* `SetsTheme`, `UsesTheme`: what the two commands make of three texts;
* `setsTheme_iff`, `usesTheme_iff`: which themes they accept;
* `theme_notations_agree`: where they agree.
-/

namespace Componentry

/-- Three values are the channels of a theme if they stand for whole numbers in its ranges. -/
theorem Theme.ofChannels_eq_ok_iff {hue saturation lightness : Json} {t : Theme} :
    ofChannels hue saturation lightness = .ok t ↔
      wholeNumber hue = .ok (t.hue : Int) ∧ wholeNumber saturation = .ok (t.saturation : Int) ∧
        wholeNumber lightness = .ok (t.lightness : Int) ∧ t.Valid := by
  -- no channel is missing
  have hfields : ofChannels hue saturation lightness = .ok t ↔
      channel maxHue hue = .ok t.hue ∧ channel maxPercent saturation = .ok t.saturation ∧
        channel maxPercent lightness = .ok t.lightness := ofFields_eq_ok_iff
  rw [hfields, channel_eq_ok_iff, channel_eq_ok_iff, channel_eq_ok_iff, Valid]
  tauto

theorem Theme.readText_eq_ok_iff {t : Text} {n : Int} :
    readText t = .ok n ↔ Numeral.readLenient t = .ok n := by
  rw [readText]
  split
  next heq => rw [heq, Except.ok.injEq, Except.ok.injEq]
  next heq => simp [heq]
  next heq => simp [heq]

namespace Session

open CommandLine Numeral

variable {s : Session} {file hue saturation lightness : Text} {t : Theme}

/-- Three channels in one text. -/
def channelsText (hue saturation lightness : Text) : Text :=
  hue ++ ',' :: (saturation ++ ',' :: lightness)

/-- The theme command succeeds with three channels and leaves the theme. -/
def SetsTheme (s : Session) (hue saturation lightness : Text) (t : Theme) : Prop :=
  let outcome := themeCommand ["set", hue, saturation, lightness] s
  outcome.answer = answerCode 0 ∧ outcome.state.theme = t

/-- The arguments of the conversion command for a file and three channels in one text. -/
def themeArguments (file hue saturation lightness : Text) : List Text :=
  ["run", file, "--theme", channelsText hue saturation lightness]

/-- The conversion command accepts three channels for a file as the theme. -/
def UsesTheme (s : Session) (file hue saturation lightness : Text) (t : Theme) : Prop :=
  ∃ o, readInquiry false (themeArguments file hue saturation lightness) = .run o ∧
    jobTheme s (o.theme?.getD []) = .ok t

/-! ### Three words -/

/-- The theme command accepts three words that are leniently read as channels. -/
theorem setsTheme_iff :
    SetsTheme s hue saturation lightness t ↔
      readLenient hue = .ok (t.hue : Int) ∧ readLenient saturation = .ok (t.saturation : Int) ∧
        readLenient lightness = .ok (t.lightness : Int) ∧ t.Valid := by
  have hchannels := @Theme.ofChannels_eq_ok_iff (.string hue) (.string saturation)
    (.string lightness) t
  simp only [Theme.wholeNumber, Theme.readText_eq_ok_iff] at hchannels
  rw [← hchannels]
  change (changeTheme hue saturation lightness s).answer = answerCode 0 ∧
    (changeTheme hue saturation lightness s).state.theme = t ↔ _
  rw [changeTheme]
  cases Theme.ofChannels (.string hue) (.string saturation) (.string lightness) with
  | ok theme => simp [saying]
  | error error => simp [saying, answerCode]

/-! ### One word -/

/-- The conversion command reads the last of its arguments as the theme, if that is a word. -/
theorem readInquiry_eq_run_iff {o : RunOptions}
    (hfile : readArguments? runForms [file] = some [.word file]) :
    readInquiry false (themeArguments file hue saturation lightness) = .run o ↔
      ∃ word, readArgument? runForms (channelsText hue saturation lightness) =
          some (.word word) ∧
        o = { RunOptions.empty with files := [file], theme? := some word } := by
  have hfileMark : file ≠ endMark := by
    rintro rfl
    cases hfile
  have htextMark : channelsText hue saturation lightness ≠ endMark := by
    intro heq
    have hcomma : ',' ∈ endMark := by
      rw [← heq, channelsText]
      simp
    exact absurd hcomma (by decide)
  -- the file is a word, and the option for the theme is known
  rw [readArguments?_cons _ hfileMark] at hfile
  have hword : readArgument? runForms file = some (.word file) := by
    cases hargued : readArgument? runForms file with
    | none =>
      rw [hargued] at hfile
      cases hfile
    | some argued =>
      rw [hargued] at hfile
      cases hfile
      rfl
  have hoption : readArgument? runForms "--theme" = some (.option themeForm none) := by
    decide +kernel
  have hread : readInquiry false (themeArguments file hue saturation lightness) =
      (readCommand "run" [file, "--theme", channelsText hue saturation lightness]).unless
        false := rfl
  rw [hread, readCommand, if_pos rfl, readArguments?_cons _ hfileMark,
    readArguments?_cons _ (by decide), readArguments?_cons _ htextMark, hword, hoption]
  cases readArgument? runForms (channelsText hue saturation lightness) with
  | none =>
    refine iff_of_false ?_ (by simp)
    intro h
    cases h
  | some argued =>
    cases argued with
    | word word =>
      constructor
      · intro h
        cases h
        exact ⟨word, rfl, rfl⟩
      · rintro ⟨word, heq, rfl⟩
        cases heq
        rfl
    | _ =>
      -- the option for the theme has no value
      refine iff_of_false ?_ (by simp)
      intro h
      cases h

/-- A theme that is given on the command line is read. -/
theorem jobTheme_channelsText_iff :
    jobTheme s (channelsText hue saturation lightness) = .ok t ↔
      readTheme (channelsText hue saturation lightness) = .ok t := by
  have hne : (channelsText hue saturation lightness).isEmpty = false := by
    rw [List.isEmpty_eq_false_iff, channelsText]
    exact List.append_ne_nil_of_right_ne_nil _ (List.cons_ne_nil _ _)
  rw [jobTheme, hne]
  cases readTheme (channelsText hue saturation lightness) <;> simp

/-- What a text with three channels is read as. -/
theorem readTheme_channelsText_iff (hhue : ',' ∉ hue) (hsaturation : ',' ∉ saturation)
    (hlightness : ',' ∉ lightness) :
    readTheme (channelsText hue saturation lightness) = .ok t ↔
      readInteger (Text.trim hue) = .ok (t.hue : Int) ∧
        readInteger (Text.trim saturation) = .ok (t.saturation : Int) ∧
        readInteger (Text.trim lightness) = .ok (t.lightness : Int) ∧ t.Valid := by
  rw [readTheme, channelsText, Text.splitOn_append_cons hhue, Text.splitOn_append_cons hsaturation,
    Text.splitOn_eq_singleton hlightness]
  change themeOfParts (Text.trim hue) (Text.trim saturation) (Text.trim lightness) = .ok t ↔ _
  rw [themeOfParts]
  cases hh : readInteger (Text.trim hue) with
  | error => simp
  | ok h =>
    cases hs : readInteger (Text.trim saturation) with
    | error => simp
    | ok s =>
      cases hl : readInteger (Text.trim lightness) with
      | error => simp
      | ok l =>
        have hchannels := @Theme.ofChannels_eq_ok_iff (.int h) (.int s) (.int l) t
        simp only [Theme.wholeNumber, Except.ok.injEq] at hchannels ⊢
        rw [← hchannels]
        cases Theme.ofChannels (.int h) (.int s) (.int l) <;> simp

/-- The conversion command accepts a word with three channels that are read as integers. -/
theorem usesTheme_iff (hfile : readArguments? runForms [file] = some [.word file])
    (hhue : ',' ∉ hue) (hsaturation : ',' ∉ saturation) (hlightness : ',' ∉ lightness) :
    UsesTheme s file hue saturation lightness t ↔
      readArgument? runForms (channelsText hue saturation lightness) =
          some (.word (channelsText hue saturation lightness)) ∧
        readInteger (Text.trim hue) = .ok (t.hue : Int) ∧
        readInteger (Text.trim saturation) = .ok (t.saturation : Int) ∧
        readInteger (Text.trim lightness) = .ok (t.lightness : Int) ∧ t.Valid := by
  rw [← readTheme_channelsText_iff hhue hsaturation hlightness, ← @jobTheme_channelsText_iff s]
  constructor
  · rintro ⟨o, ho, htheme⟩
    obtain ⟨word, hword, rfl⟩ := (readInquiry_eq_run_iff hfile).1 ho
    obtain rfl := eq_of_readArgument?_eq_word hword
    exact ⟨hword, htheme⟩
  · rintro ⟨hword, htheme⟩
    exact ⟨_, (readInquiry_eq_run_iff hfile).2 ⟨_, hword, rfl⟩, htheme⟩

/-! ### Numerals -/

/-- A numeral with a dash in front is a word only if there is a space in the text that it starts. -/
theorem readArgument?_channelsText_iff {n : Int} (h : Writes (unpadded hue) n) :
    readArgument? runForms (channelsText hue saturation lightness) =
        some (.word (channelsText hue saturation lightness)) ↔
      (hue.head? = some '-' → ' ' ∈ channelsText hue saturation lightness) := by
  have hcomma : ',' ∈ channelsText hue saturation lightness :=
    List.mem_append_right _ List.mem_cons_self
  cases hue with
  | nil => exact absurd rfl h.ne_nil
  | cons c rest =>
    by_cases hdash : c = '-'
    · -- the digit after the dash rules out all options, long and short
      subst hdash
      obtain ⟨d, more, rfl, hd⟩ := h.exists_digit
      rw [imp_iff_right List.head?_cons, ← wordOrUnknown_eq_word_iff hcomma, channelsText,
        List.cons_append, List.cons_append, readArgument?_of_isDigit hd, Option.some.injEq]
    · refine iff_of_true (readArgument?_of_ne_dash hdash _) fun hhead => ?_
      exact absurd (Option.some.inj hhead) hdash

/-! ### Agreement -/

/-- A text is a numeral, apart from the blanks around it. -/
def IsNumeral (t : Text) : Prop := ∃ n, Writes (unpadded t) n

/-- If both commands accept three channels, they take them for the same theme, and the channels are
numerals. Whenever the channels are numerals, both commands accept them or none does, unless the
conversion command takes them for an option. A job gets the theme that is accepted. -/
theorem theme_notations_agree (s : Session)
    (hfile : readArguments? runForms [file] = some [.word file])
    (hhue : ',' ∉ hue) (hsaturation : ',' ∉ saturation) (hlightness : ',' ∉ lightness) :
    let sets := SetsTheme s hue saturation lightness
    let uses := UsesTheme s file hue saturation lightness
    let isWord := hue.head? = some '-' → ' ' ∈ channelsText hue saturation lightness
    (∀ t t', sets t ∧ uses t' ↔
      t = t' ∧ t.Valid ∧ Writes (unpadded hue) t.hue ∧ Writes (unpadded saturation) t.saturation ∧
        Writes (unpadded lightness) t.lightness ∧ isWord) ∧
      (IsNumeral hue → IsNumeral saturation → IsNumeral lightness → isWord →
        ∀ t, sets t ↔ uses t) ∧
      ∀ o job, readInquiry false (themeArguments file hue saturation lightness) = .run o →
        jobOf s o = .ok job → uses job.theme := by
  intro sets uses isWord
  have huses : ∀ {n : Int}, Writes (unpadded hue) n → ∀ t, uses t ↔ isWord ∧
      readInteger (Text.trim hue) = .ok (t.hue : Int) ∧
      readInteger (Text.trim saturation) = .ok (t.saturation : Int) ∧
      readInteger (Text.trim lightness) = .ok (t.lightness : Int) ∧ t.Valid := by
    intro n hn t
    exact (usesTheme_iff hfile hhue hsaturation hlightness).trans
      (and_congr_left' (readArgument?_channelsText_iff hn))
  refine ⟨fun t t' => ⟨?_, ?_⟩, ?_, fun o job ho hjob => ?_⟩
  · -- the same three texts are read by both readers
    rintro ⟨hsets, ht'⟩
    obtain ⟨hh, hs, hl, hvalid⟩ := setsTheme_iff.1 hsets
    obtain ⟨-, hh', hs', hl', -⟩ := (usesTheme_iff hfile hhue hsaturation hlightness).1 ht'
    obtain ⟨hhueWrites, hhueEq⟩ := both_read_iff.1 ⟨hh, hh'⟩
    obtain ⟨hsaturationWrites, hsaturationEq⟩ := both_read_iff.1 ⟨hs, hs'⟩
    obtain ⟨hlightnessWrites, hlightnessEq⟩ := both_read_iff.1 ⟨hl, hl'⟩
    obtain rfl : t = t' := by
      cases t
      cases t'
      simp_all
    exact ⟨rfl, hvalid, hhueWrites, hsaturationWrites, hlightnessWrites,
      ((huses hhueWrites t).1 ht').1⟩
  · rintro ⟨rfl, hvalid, hh, hs, hl, hword⟩
    have hhueRead := both_read_iff.2 ⟨hh, rfl⟩
    have hsaturationRead := both_read_iff.2 ⟨hs, rfl⟩
    have hlightnessRead := both_read_iff.2 ⟨hl, rfl⟩
    exact ⟨setsTheme_iff.2 ⟨hhueRead.1, hsaturationRead.1, hlightnessRead.1, hvalid⟩,
      (huses hh t).2 ⟨hword, hhueRead.2, hsaturationRead.2, hlightnessRead.2, hvalid⟩⟩
  · rintro ⟨h, hh⟩ ⟨k, hk⟩ ⟨l, hl⟩ hword t
    rw [huses hh t]
    change SetsTheme s hue saturation lightness t ↔ _
    rw [setsTheme_iff, readLenient_iff_readInteger hh, readLenient_iff_readInteger hk,
      readLenient_iff_readInteger hl]
    exact (and_iff_right hword).symm
  · obtain ⟨theme, styles, settings, htheme, -, -, rfl⟩ := exists_of_jobOf hjob
    exact ⟨o, ho, htheme⟩

/-- A sign, an underscore and a blank. -/
theorem theme_notations_agree_grouped :
    let s := fresh []
    readArguments? runForms ["a.html".toList] = some [.word "a.html".toList] ∧
      ',' ∉ "+1_20".toList ∧ ',' ∉ " 050".toList ∧ ',' ∉ "40".toList ∧
      SetsTheme s "+1_20" " 050" "40" ⟨120, 50, 40⟩ ∧
      UsesTheme s "a.html" "+1_20" " 050" "40" ⟨120, 50, 40⟩ := by
  intro s
  have hfile : readArguments? runForms ["a.html".toList] = some [.word "a.html".toList] := by
    decide +kernel
  have hhue : Writes (unpadded "+1_20") 120 :=
    .plus (.group rfl (.next rfl (.last rfl))) (by decide)
  have hsaturation : Writes (unpadded " 050") 50 :=
    .unsigned (.next rfl (.next rfl (.last rfl))) (by decide)
  have hlightness : Writes (unpadded "40") 40 := .unsigned (.next rfl (.last rfl)) (by decide)
  refine ⟨hfile, by decide, by decide, by decide, ?_⟩
  obtain ⟨hboth, -⟩ := theme_notations_agree s hfile (by decide : ',' ∉ "+1_20".toList)
    (by decide : ',' ∉ " 050".toList) (by decide : ',' ∉ "40".toList)
  exact (hboth ⟨120, 50, 40⟩ ⟨120, 50, 40⟩).2
    ⟨rfl, ⟨by decide, by decide, by decide⟩, hhue, hsaturation, hlightness, nofun⟩

/-- A fraction of zeros is a channel for the theme command only. -/
theorem fraction_sets_theme_only :
    let s := fresh []
    let segment : Segment := ⟨"convert".toList, themeArguments "a.html" "1.0" "2" "3", none⟩
    ',' ∉ "1.0".toList ∧ ',' ∉ "2".toList ∧ ',' ∉ "3".toList ∧
      SetsTheme s "1.0" "2" "3" ⟨1, 2, 3⟩ ∧ (∀ t, ¬ UsesTheme s "a.html" "1.0" "2" "3" t) ∧
      (call handlers segment s).code = 1 ∧
      (call handlers segment s).outputs =
        [.say "❌ Invalid --theme: invalid literal for int() with base 10: '1.0'"] := by
  intro s segment
  have hinteger : readInteger (Text.trim "1.0") = .error (.malformed "1.0") := by decide +kernel
  refine ⟨by decide, by decide, by decide, ⟨rfl, rfl⟩, ?_, by decide +kernel, by decide +kernel⟩
  intro t huses
  obtain ⟨-, hread, -⟩ :=
    (usesTheme_iff (by decide +kernel) (by decide) (by decide) (by decide)).1 huses
  cases hinteger.symm.trans hread

end Session

end Componentry
