import Componentry.Proofs.Session.History
import Componentry.Proofs.Theme

/-!
# The theme of a session

The theme of a session is valid at any time. It comes from the configuration or from three channels
that the user gives, and only the theme command and the configuration command change it, if they
succeed. A conversion may have a theme of its own, which is gone after it.

* `theme_configCommand`, `theme_themeCommand`, `theme_convertCommand`: what commands do to the
  theme;
* `call_theme`: a command keeps the theme, or succeeds and leaves a valid one;
* `theme_stays_valid`: the theme between any two commands, and what any command does to it.
-/

namespace Componentry.Session

open CommandLine

variable {s : Session}

/-! ### What commands do to the theme -/

/-- The configuration command keeps the theme, or succeeds and leaves the theme of the
configuration. -/
theorem theme_configCommand (arguments : List Text) (s : Session) :
    (configCommand arguments s).state.theme = s.theme ∨
      (configCommand arguments s).answer = answerCode 0 ∧
        (configCommand arguments s).state.theme =
          (Configuration.theme s.file.platform.guide
            (configCommand arguments s).state.config).1 := by
  cases configures_configCommand arguments s with
  | keeps hstate => exact .inl (by rw [hstate])
  | stores _ hanswer hstate =>
    rw [hstate]
    -- only a change below the theme section reaches the theme
    split
    · exact .inr ⟨hanswer, rfl⟩
    · exact .inl rfl
  | reloads hanswer hstate =>
    rw [hstate]
    exact .inr ⟨hanswer, rfl⟩

/-- The theme command keeps the theme, or succeeds and leaves the theme of three channels or that of
the configuration. -/
theorem theme_themeCommand (arguments : List Text) (s : Session) :
    (themeCommand arguments s).state.theme = s.theme ∨
      (themeCommand arguments s).answer = answerCode 0 ∧
        ((∃ hue saturation lightness : Text,
            Theme.ofChannels (.string hue) (.string saturation) (.string lightness) =
              .ok (themeCommand arguments s).state.theme) ∨
          (themeCommand arguments s).state.theme =
            (Configuration.theme s.file.platform.guide s.config).1) := by
  cases rethemes_themeCommand arguments s with
  | keeps hstate => exact .inl (by rw [hstate])
  | gives hchannels hanswer hstate =>
    rw [hstate]
    exact .inr ⟨hanswer, .inl ⟨_, _, _, hchannels⟩⟩
  | restores hanswer hstate =>
    rw [hstate]
    exact .inr ⟨hanswer, .inr rfl⟩

theorem Turn.theme_after (turn : Turn) : turn.after.theme = turn.before.theme := by
  rw [Turn.after_eq]
  split <;> rfl

/-- The conversion command keeps the theme, even if it is given one. -/
theorem theme_convertCommand (arguments : List Text) (s : Session) :
    (convertCommand arguments s).state.theme = s.theme :=
  convertCommand_preserves (P := fun t => t.theme = s.theme)
    (fun turn hbefore => turn.theme_after.trans hbefore) arguments rfl

/-- A command changes the theme only if it is the configuration command or the theme command and
succeeds, and then the new theme is valid. -/
theorem call_theme (s : Session) (segment : Segment) :
    (call handlers segment s).state.theme = s.theme ∨
      (segment.name = "config".toList ∨ segment.name = "theme".toList) ∧
        (call handlers segment s).code = 0 ∧ (call handlers segment s).state.theme.Valid := by
  rcases state_call_cases s segment with
    hkeeps | ⟨hname, hhandler⟩ | ⟨-, hhandler⟩ | ⟨hname, hhandler⟩
  · exact .inl (by rw [hkeeps])
  · rw [state_call hhandler]
    rcases theme_configCommand segment.arguments s with hsame | ⟨hanswer, htheme⟩
    · exact .inl hsame
    · refine .inr ⟨.inl hname, code_call hhandler hanswer, ?_⟩
      exact htheme ▸ Configuration.valid_theme _ _
  · rw [state_call hhandler]
    exact .inl (theme_convertCommand segment.arguments s)
  · rw [state_call hhandler]
    rcases theme_themeCommand segment.arguments s with
      hsame | ⟨hanswer, ⟨hue, saturation, lightness, hchannels⟩ | hconfig⟩
    · exact .inl hsame
    · exact .inr ⟨.inr hname, code_call hhandler hanswer, Theme.valid_of_ofFields hchannels⟩
    · refine .inr ⟨.inr hname, code_call hhandler hanswer, ?_⟩
      exact hconfig ▸ Configuration.valid_theme s.file.platform.guide s.config

/-- A command leaves a valid theme if it finds one. -/
theorem valid_theme_call (h : s.theme.Valid) (segment : Segment) :
    (call handlers segment s).state.theme.Valid := by
  rcases call_theme s segment with hsame | ⟨-, -, hvalid⟩
  · rwa [hsame]
  · exact hvalid

/-! ### The theme between commands -/

theorem valid_theme_start {file : Configuration.File} {disk : Disk} {entries : List Log.Entry}
    (h : start file disk = .ok (s, entries)) : s.theme.Valid := by
  obtain ⟨⟨config, warnings⟩, -, hs⟩ := Except.map_eq_ok.1 h
  obtain ⟨rfl, -⟩ := Prod.mk.inj hs
  exact Configuration.valid_theme file.platform.guide config

/-- Between any two commands of a session the theme is valid, and any command that is run there
keeps it or is a configuration command or a theme command that succeeds. Whatever a configuration
holds, a theme comes out of it: that of its theme section, or the default theme with a warning. -/
theorem theme_stays_valid {file : Configuration.File} {disk : Disk} {entries : List Log.Entry}
    (hstart : start file disk = .ok (s, entries)) (lines : List Text)
    {earlier later : List (Step Session)} (hsteps : stepsOf s lines = earlier ++ later) :
    let context := s.leave earlier
    context.theme.Valid ∧
      (∀ step rest, later = step :: rest → step.before = context) ∧
      (∀ segment, let after := call handlers segment context
        after.state.theme.Valid ∧
          (after.code ≠ 0 → after.state.theme = context.theme) ∧
          (segment.name = "convert".toList → after.state.theme = context.theme) ∧
          (segment.name ≠ "config".toList → segment.name ≠ "theme".toList →
            after.state.theme = context.theme)) ∧
      ∀ guide config, (Configuration.theme guide config).1.Valid ∧
        ((∃ theme, Theme.ofValue (Configuration.themeSection config) = .ok theme ∧
            Configuration.theme guide config = (theme, [])) ∨
          ∃ error warning, Theme.ofValue (Configuration.themeSection config) = .error error ∧
            warning.level = .warning ∧
            Configuration.theme guide config = (Theme.default, [warning])) := by
  intro context
  have hrun := succession_stepsOf s lines
  rw [hsteps] at hrun
  obtain ⟨t, hearlier, hlater⟩ := Succession.append_iff.1 hrun
  -- the session between the two parts is the one that the last of the earlier commands leaves
  obtain rfl : t = context := hearlier.eq_last
  have hvalid : context.theme.Valid := hearlier.preserves (P := fun t => t.theme.Valid)
    (fun step _ hbefore => valid_theme_call hbefore step.segment) (valid_theme_start hstart)
  refine ⟨hvalid, ?_, fun segment => ?_,
    fun guide config =>
      ⟨Configuration.valid_theme guide config, Configuration.theme_cases guide config⟩⟩
  · rintro step rest rfl
    exact (Succession.cons_iff.1 hlater).1
  · refine ⟨valid_theme_call hvalid segment, ?_⟩
    rcases call_theme context segment with hsame | ⟨hname, hcode, -⟩
    · exact ⟨fun _ => hsame, fun _ => hsame, fun _ _ => hsame⟩
    · refine ⟨fun hfails => absurd hcode hfails, fun hconvert => ?_, fun hconfig htheme => ?_⟩
      · rw [hconvert] at hname
        exact absurd hname (by decide)
      · exact absurd hname (not_or.2 ⟨hconfig, htheme⟩)

/-- A session in which one line sets a theme, and the next one asks for a hue that there is not. -/
theorem theme_stays_valid_channels :
    let file : Configuration.File := ⟨"settings.json", none, ⟨990, [], .closes⟩⟩
    let s := (ofConfig file (.object []) (fresh []).disk).1
    let steps := stepsOf s ["theme set 1 2 3".toList, "theme set 361 2 3".toList]
    let context := s.leave (steps.take 1)
    start file (fresh []).disk = .ok (s, [Configuration.File.missing "settings.json"]) ∧
      steps = steps.take 1 ++ steps.drop 1 ∧ context.theme = ⟨1, 2, 3⟩ ∧ context.theme.Valid ∧
      ∀ step ∈ steps.drop 1, (call handlers step.segment context).code = 1 ∧
        (call handlers step.segment context).state.theme = ⟨1, 2, 3⟩ := by
  intro file s steps context
  have hstart : start file (fresh []).disk =
      .ok (s, [Configuration.File.missing "settings.json"]) := rfl
  have hsteps : steps = steps.take 1 ++ steps.drop 1 := (List.take_append_drop 1 steps).symm
  obtain ⟨hvalid, -, hcalls, -⟩ := theme_stays_valid hstart _ hsteps
  have htheme : context.theme = ⟨1, 2, 3⟩ := by decide +kernel
  have hcodes : ∀ step ∈ steps.drop 1, (call handlers step.segment context).code = 1 := by
    decide +kernel
  refine ⟨hstart, hsteps, htheme, hvalid, fun step hstep => ⟨hcodes step hstep, ?_⟩⟩
  rw [← htheme]
  exact (hcalls step.segment).2.1 (by rw [hcodes step hstep]; decide)

end Componentry.Session
