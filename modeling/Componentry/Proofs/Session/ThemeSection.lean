import Componentry.Proofs.Configuration.Locality
import Componentry.Proofs.Session.Theme

/-!
# The theme section

A session takes its theme from the theme section of the configuration and keeps it. It takes it
again when the settings file is read again and when something below the section is changed, so that
the two agree until the user gives a theme. There is one exception: a text in the place of the whole
section is stored, and the session does not notice. What is there is no theme any more, so that the
theme of the configuration is the default theme, and the session keeps that of the section that is
gone.

* `Configuration.theme_eq_default`: the theme of a configuration without fields in its section;
* `theme_changeConfig_of_stored`: what a change of the configuration does to the theme;
* `isCurrent_runLines`: how long the theme of a session is that of its configuration;
* `theme_follows_iff`: which changes of the configuration reach the theme.
-/

namespace Componentry

namespace Configuration

variable {config after value : Json} {path t : Text} {warnings : List Log.Entry}

/-- The path of the theme section. -/
def themePath : Text := "theme"

/-- What there is in the place of the theme section. -/
def themeEntry (config : Json) : Json := lookup (keys themePath) config

/-! ### The theme of a configuration -/

/-- The theme is read from what is in the place of its section, if that counts as something. -/
theorem themeSection_eq (config : Json) :
    themeSection config =
      if (themeEntry config).isNothing then .object [] else themeEntry config := by
  rw [themeSection]
  by_cases hnull : themeEntry config = .null
  · have hget : get config "theme" (.object []) = .object [] := by
      rw [get, get?, show lookup (keys "theme") config = .null from hnull]
      rfl
    rw [hget, hnull]
    rfl
  · have hget : get config "theme" (.object []) = themeEntry config :=
      get_eq_of_ne_null rfl hnull _
    rw [hget]

theorem theme_congr (guide : Text) (h : themeEntry after = themeEntry config) :
    theme guide after = theme guide config := by
  rw [theme, theme, ← themeSection, ← themeSection, themeSection_eq, themeSection_eq, h]

/-- Without fields in the theme section the theme is the default one. -/
theorem theme_eq_default (guide : Text) (h : IsBare (themeEntry config)) :
    (theme guide config).1 = Theme.default := by
  rcases theme_cases guide config with ⟨t, hsection, htheme⟩ | ⟨_, _, _, _, htheme⟩
  · -- a theme comes from fields, and there are none
    have hempty : themeSection config = .object [] := by
      rw [themeSection_eq] at hsection ⊢
      split
      next => rfl
      next hsomething =>
        rw [if_neg hsomething] at hsection
        cases hentry : themeEntry config with
        | object fields => rw [h fields hentry]
        | _ =>
          rw [hentry] at hsection
          cases hsection
    rw [hempty] at hsection
    rw [htheme]
    exact (Except.ok.inj hsection).symm
  · rw [htheme]

/-! ### Changes of the theme section -/

/-- A path leads to the theme section or below it exactly if that is seen from its text. -/
theorem themePath_prefix_keys_iff :
    keys themePath <+: keys path ↔ path = themePath ∨ Text.startsWith path "theme." := by
  have hpath : '.' ∉ themePath := by decide
  rw [keys, keys, Text.splitOn_eq_singleton hpath, Text.singleton_prefix_splitOn_iff hpath,
    Text.startsWith, List.isPrefixOf_iff_prefix]
  rfl

/-- A change elsewhere leaves the theme section as it is. -/
theorem themeEntry_set_of_ne (hset : set config path value = .ok (.stored after warnings))
    (hne : path ≠ themePath) (hbelow : ¬ Text.startsWith path "theme.") :
    themeEntry after = themeEntry config := by
  obtain ⟨fields, changed, rfl, rfl, hmodify⟩ := exists_modify_of_set hset
  have hleads : ¬ keys themePath <+: keys path := by
    rw [themePath_prefix_keys_iff]
    exact not_or.2 ⟨hne, hbelow⟩
  refine lookup_modify_of_incomparable hmodify hleads fun haround => hleads ?_
  -- nothing is around the theme section but the whole configuration
  have hlength : (keys themePath).length ≤ (keys path).length :=
    List.length_pos_iff.2 (Text.splitOn_ne_nil '.' path)
  simp [haround.eq_of_length_le hlength]

theorem themeEntry_set_self
    (hset : set config themePath (.string t) = .ok (.stored after warnings)) :
    themeEntry after = storedText t (themeEntry config) := by
  have hself := lookup_set_self hset
  rw [stored_string] at hself
  exact (Except.ok.inj hself).symm

end Configuration

namespace Session

open CommandLine

open Componentry.Configuration (themeEntry themePath storedText)

variable {s : Session} {segment : Segment}

/-- The theme of a session is that of its configuration. -/
def IsCurrent (s : Session) : Prop :=
  s.theme = (Configuration.theme s.file.platform.guide s.config).1

/-- The theme section is as before, or else the theme is that of the configuration. -/
def Follows (before after : Session) : Prop :=
  themeEntry after.config = themeEntry before.config ∨ after.IsCurrent

/-! ### Changes of the configuration -/

theorem isCurrent_resetTheme (s : Session) : s.resetTheme.1.IsCurrent := rfl

/-- A change that is stored reaches the theme exactly if its path leads below the theme section. -/
theorem theme_changeConfig_of_stored {path value : Text} {config : Json}
    {warnings : List Log.Entry}
    (h : Configuration.set s.config path (.string value) = .ok (.stored config warnings)) :
    (changeConfig path value s).state.theme =
      if Text.startsWith path "theme." then (Configuration.theme s.file.platform.guide config).1
      else s.theme := by
  rw [state_changeConfig_of_stored h]
  split <;> rfl

/-- A text in the place of the theme section leaves the session with the theme that it has, and the
configuration with the default theme. -/
theorem changeConfig_themePath_of_stored {value : Text} {config : Json}
    {warnings : List Log.Entry}
    (h : Configuration.set s.config themePath (.string value) = .ok (.stored config warnings)) :
    let after := (changeConfig themePath value s).state
    after.theme = s.theme ∧
      themeEntry after.config = storedText value (themeEntry s.config) ∧
      (Configuration.theme after.file.platform.guide after.config).1 = Theme.default := by
  intro after
  have hconfig : after.config = config := (changeConfig_of_stored h).2
  have hentry : themeEntry after.config = storedText value (themeEntry s.config) := by
    rw [hconfig, Configuration.themeEntry_set_self h]
  refine ⟨?_, hentry, Configuration.theme_eq_default _ ?_⟩
  · rw [theme_changeConfig_of_stored h]
    exact if_neg (by decide)
  · rw [hentry]
    exact (Configuration.storedText_spec value _).2

/-- The configuration command follows the theme section unless it replaces it as a whole. -/
theorem follows_configCommand {arguments : List Text}
    (h : ∀ values, arguments ≠ "set".toList :: themePath :: values) (s : Session) :
    Follows s (configCommand arguments s).state := by
  cases configures_configCommand arguments s with
  | keeps hstate => exact .inl (by rw [hstate])
  | @stores path word words _ _ _ hstored _ hstate =>
    rw [hstate]
    split
    next => exact .inr (isCurrent_resetTheme _)
    next hbelow =>
      have hne : path ≠ themePath := by
        rintro rfl
        exact h (word :: words) rfl
      exact .inl (Configuration.themeEntry_set_of_ne hstored hne hbelow)
  | reloads _ hstate =>
    rw [hstate]
    exact .inr (isCurrent_resetTheme _)

/-! ### The theme along a session -/

/-- A change that follows the theme section, and changes the theme for nothing else, keeps the two
together. -/
theorem IsCurrent.of_follows {t : Session} (h : s.IsCurrent) (hfollows : Follows s t)
    (htheme : t.theme = s.theme ∨ t.IsCurrent) : t.IsCurrent := by
  rcases hfollows with hentry | hcurrent
  · rcases htheme with hsame | hcurrent
    · rw [IsCurrent, hsame, Configuration.theme_congr _ hentry]
      exact h.trans (Configuration.theme_fst_eq ..)
    · exact hcurrent
  · exact hcurrent

theorem isCurrent_themeCommand {arguments : List Text} (h : s.IsCurrent)
    (hset : ∀ channels, arguments ≠ "set".toList :: channels) :
    (themeCommand arguments s).state.IsCurrent := by
  cases rethemes_themeCommand arguments s with
  | keeps hstate => rwa [hstate]
  | gives => exact absurd rfl (hset _)
  | restores _ hstate =>
    rw [hstate]
    exact isCurrent_resetTheme s

/-- The command gives the session a theme, or replaces the theme section as a whole. -/
def Departs (step : Step Session) : Prop :=
  (step.segment.name = "theme".toList ∧
      ∃ channels, step.segment.arguments = "set".toList :: channels) ∨
    step.segment.name = "config".toList ∧
      ∃ values, step.segment.arguments = "set".toList :: themePath :: values

theorem isCurrent_done {step : Step Session} (hdeparts : ¬ Departs step)
    (h : step.before.IsCurrent) : (done step).state.IsCurrent := by
  rw [done, Step.run]
  obtain ⟨htheme, hconfig⟩ := not_or.1 hdeparts
  rcases state_call_cases step.before step.segment with
    hkeeps | ⟨hname, hhandler⟩ | ⟨-, hhandler⟩ | ⟨hname, hhandler⟩
  · rwa [hkeeps]
  · rw [state_call hhandler]
    have hfollows := follows_configCommand
      (fun values hvalues => hconfig ⟨hname, values, hvalues⟩) step.before
    refine h.of_follows hfollows ((theme_configCommand _ _).imp_right fun hleaves => ?_)
    exact hleaves.2.trans (Configuration.theme_fst_eq ..)
  · rw [state_call hhandler, IsCurrent, theme_convertCommand, config_convertCommand]
    exact h.trans (Configuration.theme_fst_eq ..)
  · rw [state_call hhandler]
    exact isCurrent_themeCommand h fun channels hchannels =>
      htheme ⟨hname, channels, hchannels⟩

theorem isCurrent_start {file : Configuration.File} {disk : Disk} {entries : List Log.Entry}
    (h : start file disk = .ok (s, entries)) : s.IsCurrent := by
  obtain ⟨⟨config, warnings⟩, -, hs⟩ := Except.map_eq_ok.1 h
  obtain ⟨rfl, -⟩ := Prod.mk.inj hs
  exact isCurrent_resetTheme _

/-- The theme of a session is that of its configuration as long as the user gives no theme and does
not replace the theme section. -/
theorem isCurrent_runLines {file : Configuration.File} {disk : Disk} {entries : List Log.Entry}
    {lines : List Text} (hstart : start file disk = .ok (s, entries))
    (h : ∀ step ∈ stepsOf s lines, ¬ Departs step) : (s.runLines lines).IsCurrent :=
  (succession_stepsOf s lines).preserves (fun step hstep => isCurrent_done (h step hstep))
    (isCurrent_start hstart)

/-! ### What reaches the theme -/

/-- When the configuration command succeeds, the theme is that of the configuration if the settings
file has been read again. If a value has been changed, the theme section is as before or the theme
is that of the configuration, unless the whole section has been replaced by something else while the
theme is not the default one: the session keeps its theme then, although the theme of the
configuration is the default one now. -/
theorem theme_follows_iff (hname : segment.name = "config".toList)
    (hcode : (call handlers segment s).code = 0) :
    let after := (call handlers segment s).state
    (∀ rest, segment.arguments = "reset".toList :: rest → after.IsCurrent) ∧
      ∀ path word words, segment.arguments = "set".toList :: path :: word :: words →
        let stored := storedText (List.intercalate [' '] (word :: words)) (themeEntry s.config)
        (Follows s after ↔
            path ≠ themePath ∨ stored = themeEntry s.config ∨ s.theme = Theme.default) ∧
          (path = themePath → after.theme = s.theme ∧ themeEntry after.config = stored ∧
            (Configuration.theme after.file.platform.guide after.config).1 = Theme.default) := by
  intro after
  have hhandler : handlers segment.name = some configCommand := by rw [hname]; rfl
  have hafter : after = (configCommand segment.arguments s).state := state_call hhandler s
  constructor
  · intro rest harguments
    have hrun : configCommand segment.arguments s = resetConfig s := by rw [harguments]; rfl
    rw [hafter, hrun]
    cases hload : s.file.load with
    | error error =>
      rw [resetConfig, hload] at hrun
      rw [call_of_failure _ hhandler hrun] at hcode
      cases hcode
    | ok loaded =>
      rw [resetConfig, hload]
      exact isCurrent_resetTheme _
  · intro path word words harguments stored
    obtain ⟨config, warnings, hset, hstate⟩ := stored_of_code_eq_zero hname harguments hcode
    by_cases hpath : path = themePath
    · subst hpath
      obtain ⟨htheme, hentry, hdefault⟩ := changeConfig_themePath_of_stored hset
      rw [← hstate] at htheme hentry hdefault
      refine ⟨?_, fun _ => ⟨htheme, hentry, hdefault⟩⟩
      rw [Follows, IsCurrent, htheme, hentry, hdefault]
      simp [stored]
    · refine ⟨iff_of_true ?_ (.inl hpath), fun hsame => absurd hsame hpath⟩
      rw [hafter]
      refine follows_configCommand (fun values hvalues => hpath ?_) s
      rw [harguments] at hvalues
      exact (List.cons.inj (List.cons.inj hvalues).2).1

/-- A change below the theme section reaches the theme. -/
theorem theme_follows_iff_hue :
    let s := fresh []
    let segment : Segment :=
      ⟨"config".toList, ["set".toList, "theme.hue".toList, "120".toList], none⟩
    let run := call handlers segment s
    segment.name = "config".toList ∧ run.code = 0 ∧ Follows s run.state ∧
      run.state.theme = ⟨120, 91, 60⟩ := by
  intro s segment run
  have hname : segment.name = "config".toList := rfl
  have hcode : (call handlers segment s).code = 0 := by decide +kernel
  obtain ⟨-, hset⟩ := theme_follows_iff hname hcode
  obtain ⟨hfollows, -⟩ := hset "theme.hue".toList "120".toList [] rfl
  exact ⟨hname, hcode, hfollows.2 (.inl (by decide)), by decide +kernel⟩

/-- A text replaces the theme section from which the theme has been taken. -/
theorem replaced_section_unnoticed :
    let s := (fresh []).runLines ["config set theme.hue 120".toList]
    let run := call handlers ⟨"config".toList, ["set".toList, "theme".toList, "x".toList], none⟩ s
    run.code = 0 ∧ ¬ Follows s run.state ∧ run.state.theme = ⟨120, 91, 60⟩ ∧
      (Configuration.theme run.state.file.platform.guide run.state.config).1 = ⟨217, 91, 60⟩ := by
  intro s run
  have htheme : run.state.theme = ⟨120, 91, 60⟩ := by decide +kernel
  have hconfig : (Configuration.theme run.state.file.platform.guide run.state.config).1 =
      ⟨217, 91, 60⟩ := by decide +kernel
  refine ⟨by decide +kernel, ?_, htheme, hconfig⟩
  rintro (hentry | hcurrent)
  · -- there was an object, and there is a text
    have htype : (themeEntry run.state.config).typeName ≠ (themeEntry s.config).typeName := by
      decide +kernel
    exact htype (congrArg Json.typeName hentry)
  · rw [IsCurrent, htheme, hconfig] at hcurrent
    revert hcurrent
    decide

end Session

end Componentry
