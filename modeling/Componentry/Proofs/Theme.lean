import Componentry.Configuration.File
import Componentry.Proofs.Outcome

/-!
# Themes

What makes a theme valid. Fields give a theme if each of its channels is missing or has a value that
stands for a whole number in the range of the channel, so that every theme that fields give is in
its ranges. Whatever the theme section of a configuration holds, the configuration has a valid
theme.

* `Theme.channel_eq_ok_iff`, `Theme.ofFields_eq_ok_iff`: which values are channels, and which fields
  give which theme;
* `Theme.valid_of_ofFields`: the themes that fields give are valid;
* `Configuration.theme_cases`, `Configuration.valid_theme`: the theme of a configuration.
-/

namespace Componentry

namespace Theme

variable {fields : Json.Fields} {name : Text} {limit fallback n : Nat} {t : Theme}

/-- A value is a channel if it stands for a whole number from zero to the limit. -/
theorem channel_eq_ok_iff {value : Json} :
    channel limit value = .ok n ↔ wholeNumber value = .ok (n : Int) ∧ n ≤ limit := by
  rw [channel]
  cases wholeNumber value with
  | error fault => simp
  | ok m =>
    dsimp only
    rw [Except.ok.injEq]
    split_ifs with habove hnegative
    · exact iff_of_false (by simp) (by omega)
    · exact iff_of_false (by simp) (by omega)
    · rw [Except.ok.injEq]
      omega

/-- `n` is the channel of that name: the one that its value stands for, or `fallback` if the channel
is missing. -/
def HasChannel (fields : Json.Fields) (name : Text) (limit fallback n : Nat) : Prop :=
  match Json.find? name fields with
  | none => n = fallback
  | some value => channel limit value = .ok n

theorem channelField_eq_iff :
    channelField fields name limit fallback = (n, []) ↔
      HasChannel fields name limit fallback n := by
  rw [channelField, HasChannel]
  cases Json.find? name fields with
  | none => simp [eq_comm]
  | some value =>
    dsimp only
    cases channel limit value <;> simp

/-- A channel is in its range. -/
theorem HasChannel.le (h : HasChannel fields name limit fallback n) (hfallback : fallback ≤ limit) :
    n ≤ limit := by
  rw [HasChannel] at h
  split at h
  · exact h ▸ hfallback
  · exact (channel_eq_ok_iff.1 h).2

/-- Fields give a theme if they have its channels. -/
theorem ofFields_eq_ok_iff :
    ofFields fields = .ok t ↔
      HasChannel fields "hue" maxHue default.hue t.hue ∧
        HasChannel fields "saturation" maxPercent default.saturation t.saturation ∧
        HasChannel fields "lightness" maxPercent default.lightness t.lightness := by
  rw [ofFields, ← channelField_eq_iff, ← channelField_eq_iff, ← channelField_eq_iff]
  generalize channelField fields "hue" maxHue default.hue = hue
  generalize channelField fields "saturation" maxPercent default.saturation = saturation
  generalize channelField fields "lightness" maxPercent default.lightness = lightness
  obtain ⟨hue, hueIssues⟩ := hue
  obtain ⟨saturation, saturationIssues⟩ := saturation
  obtain ⟨lightness, lightnessIssues⟩ := lightness
  dsimp only
  split
  next hissues =>
    -- none of the channels has an issue
    rw [List.append_eq_nil_iff, List.append_eq_nil_iff] at hissues
    obtain ⟨⟨rfl, rfl⟩, rfl⟩ := hissues
    cases t
    simp
  next hissues =>
    refine iff_of_false (by simp) ?_
    rintro ⟨hhue, hsaturation, hlightness⟩
    cases hhue
    cases hsaturation
    cases hlightness
    exact hissues rfl

theorem valid_default : default.Valid := by
  rw [Valid]
  decide

/-- The themes that fields give are valid. -/
theorem valid_of_ofFields (h : ofFields fields = .ok t) : t.Valid := by
  obtain ⟨hhue, hsaturation, hlightness⟩ := ofFields_eq_ok_iff.1 h
  exact ⟨hhue.le valid_default.1, hsaturation.le valid_default.2.1,
    hlightness.le valid_default.2.2⟩

theorem valid_of_ofValue {value : Json} (h : ofValue value = .ok t) : t.Valid := by
  cases value with
  | object fields => exact valid_of_ofFields h
  | _ => cases h

end Theme

namespace Configuration

/-- What the theme of a configuration is read from. -/
def themeSection (config : Json) : Json :=
  let given := get config "theme" (.object [])
  if given.isNothing then .object [] else given

/-- The theme of a configuration is that of its theme section, without a word, or else the default
theme, with a warning. -/
theorem theme_cases (guide : Text) (config : Json) :
    (∃ t, Theme.ofValue (themeSection config) = .ok t ∧ theme guide config = (t, [])) ∨
      ∃ error warning, Theme.ofValue (themeSection config) = .error error ∧
        warning.level = .warning ∧ theme guide config = (Theme.default, [warning]) := by
  rw [theme, ← themeSection]
  cases Theme.ofValue (themeSection config) with
  | ok t => exact .inl ⟨t, rfl, rfl⟩
  | error error => exact .inr ⟨error, _, rfl, rfl, rfl⟩

/-- The place where issues are explained has no part in the theme. -/
theorem theme_fst_eq (guide other : Text) (config : Json) :
    (theme guide config).1 = (theme other config).1 := by
  rw [theme, theme, ← themeSection]
  cases Theme.ofValue (themeSection config) <;> rfl

/-- Every configuration has a valid theme. -/
theorem valid_theme (guide : Text) (config : Json) : (theme guide config).1.Valid := by
  rcases theme_cases guide config with ⟨t, hsection, htheme⟩ | ⟨error, warning, -, -, htheme⟩
  · rw [htheme]
    exact Theme.valid_of_ofValue hsection
  · rw [htheme]
    exact Theme.valid_default

end Configuration

end Componentry
