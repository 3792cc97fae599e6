import Componentry.Proofs.CommandLine.Trace
import Componentry.Proofs.Outcome
import Componentry.Proofs.Session.Turn

/-!
# What commands do to a session

A command either converts files, one turn after another, or changes the configuration and the theme
at most. Lines are run one after another on the same session.

* `Session.job?`, `call_of_job?`, `call_of_job?_eq_none`: the commands that convert files, and the
  others;
* `exists_of_jobOf`: what a job is made of;
* `Configures`, `Rethemes`, `convertCommand_cases`: what the commands do, case by case;
* `exists_succession_call`: what a command leaves;
* `history_call`: the records that a command adds;
* `call_config`: the commands that change the configuration;
* `stepsOf`, `succession_stepsOf`: the commands that lines run;
* `exists_lines_interact`: what a shell leaves is what some lines leave.
-/

namespace Componentry.Session

open CommandLine

variable {s : Session} {segment : Segment} {job : Job} {files : List Path}

/-! ### Converting files -/

/-- The job that a command asks for and its files, unless it converts nothing. -/
def job? (s : Session) (segment : Segment) : Option (Job × List Path) :=
  if segment.name = "convert".toList then
    match readInquiry false segment.arguments with
    | .run o =>
      match jobOf s o with
      | .ok job => some (job, o.files.map Path.parse)
      | .error _ => none
    | _ => none
  else none

/-- The turns that a command takes. -/
def turns (s : Session) (segment : Segment) : List Turn :=
  match s.job? segment with
  | some (job, files) => job.turns s files
  | none => []

/-- The files that a command converts, in order. -/
def deliveries (s : Session) (segment : Segment) : List Delivery :=
  (s.turns segment).filterMap Turn.delivery?

theorem job?_eq_some :
    s.job? segment = some (job, files) ↔
      segment.name = "convert".toList ∧ ∃ o, readInquiry false segment.arguments = .run o ∧
        jobOf s o = .ok job ∧ files = o.files.map Path.parse := by
  rw [job?]
  constructor
  · intro h
    split at h
    next hname =>
      split at h
      next o harguments =>
        split at h
        next job' hjob =>
          cases h
          exact ⟨hname, o, harguments, hjob, rfl⟩
        next => cases h
      next => cases h
    next => cases h
  · rintro ⟨hname, o, harguments, hjob, rfl⟩
    simp [hname, harguments, hjob]

/-- A job has the theme, the styles and the settings that its options and the configuration are read
as. -/
theorem exists_of_jobOf {o : RunOptions} (h : jobOf s o = .ok job) :
    ∃ theme styles settings, jobTheme s (o.theme?.getD []) = .ok theme ∧
      jobStyles s.disk (o.styles?.getD []) = .ok styles ∧
      conversionSettings s.file.platform.slash s.config = .ok settings ∧
      job = { settings, styles, theme, name := o.name?.getD [],
              destination :=
                if o.prints then .print else .file (exportOf s.config o.directory?) } := by
  rw [jobOf] at h
  dsimp only at h
  split at h
  · cases h
  · obtain ⟨theme, htheme, h⟩ := Except.bind_eq_ok.1 h
    obtain ⟨styles, hstyles, h⟩ := Except.bind_eq_ok.1 h
    cases hsettings : conversionSettings s.file.platform.slash s.config with
    | error error =>
      rw [hsettings] at h
      cases h
    | ok settings =>
      rw [hsettings] at h
      exact ⟨theme, styles, settings, htheme, hstyles, rfl, (Except.ok.inj h).symm⟩

/-- The job of a turn is the one that the options of the command ask for. -/
theorem exists_options_of_mem_turns {turn : Turn} (h : turn ∈ s.turns segment) :
    ∃ o, readInquiry false segment.arguments = .run o ∧ jobOf s o = .ok turn.job := by
  cases hjob : s.job? segment with
  | none => simp [turns, hjob] at h
  | some asked =>
    obtain ⟨job, files⟩ := asked
    obtain ⟨-, o, harguments, hjobOf, -⟩ := job?_eq_some.1 hjob
    simp only [turns, hjob] at h
    rw [job_of_mem_turns h]
    exact ⟨o, harguments, hjobOf⟩

/-- The state after a command is the one that its handler leaves. -/
theorem state_call {σ : Type} {commands : Text → Option (Handler σ)} {command : Handler σ}
    (hcommand : commands segment.name = some command) (state : σ) :
    (call commands segment state).state = (command segment.arguments state).state := by
  rw [call, hcommand]
  dsimp only
  split <;> rfl

/-- The outputs of a handler are visible, before a report if an error has ended the command. -/
theorem outputs_prefix_call {σ : Type} {commands : Text → Option (Handler σ)}
    {command : Handler σ} (hcommand : commands segment.name = some command) (state : σ) :
    (command segment.arguments state).outputs <+: (call commands segment state).outputs := by
  rw [call, hcommand]
  dsimp only
  split
  · exact List.prefix_rfl
  · exact List.prefix_append _ _

/-- A command that answers with an exit code has it. -/
theorem code_call {σ : Type} {commands : Text → Option (Handler σ)} {command : Handler σ}
    {code : Int} {state : σ} (hcommand : commands segment.name = some command)
    (hanswer : (command segment.arguments state).answer = answerCode code) :
    (call commands segment state).code = code := by
  rw [call, hcommand]
  dsimp only
  rw [hanswer]
  rfl

theorem handler_of_job? (h : s.job? segment = some (job, files)) :
    handlers segment.name = some convertCommand ∧
      convertCommand segment.arguments s = job.convertAll false s files := by
  obtain ⟨hname, o, harguments, hjob, rfl⟩ := job?_eq_some.1 h
  exact ⟨by rw [hname]; rfl, convertCommand_run harguments hjob⟩

/-- A command that converts files leaves what the last turn leaves. -/
theorem call_of_job? (h : s.job? segment = some (job, files)) :
    (call handlers segment s).state = (job.convertAll false s files).state := by
  obtain ⟨hhandler, hrun⟩ := handler_of_job? h
  rw [state_call hhandler, hrun]

theorem succession_call (h : s.job? segment = some (job, files)) :
    Succession Turn.before Turn.after s (s.turns segment) (call handlers segment s).state := by
  rw [turns, h, call_of_job? h]
  exact succession_turns false s files

/-- A turn that fails without ending the command is reported, and the command fails. -/
theorem reports_call {turn : Turn} {error : FileError} (hturn : turn ∈ s.turns segment)
    (herror : turn.attempt.result = .error error) (hlocal : error.isLocal = true) :
    localFailureOutputs turn.source error <:+: (call handlers segment s).outputs ∧
      (call handlers segment s).code = 1 := by
  cases hjob : s.job? segment with
  | none => simp [turns, hjob] at hturn
  | some asked =>
    obtain ⟨job, files⟩ := asked
    rw [turns, hjob] at hturn
    obtain ⟨hhandler, hrun⟩ := handler_of_job? hjob
    obtain ⟨houtputs, hanswer⟩ := reports_of_mem_turns false hturn herror hlocal
    rw [← hrun] at houtputs hanswer
    refine ⟨houtputs.trans (outputs_prefix_call hhandler s).isInfix, ?_⟩
    rcases hanswer with hcode | ⟨message, hfailure⟩
    · exact code_call hhandler hcode
    · rw [call, hhandler]
      dsimp only
      rw [hfailure]
      rfl

/-! ### Other commands -/

/-- A name is not that of a command, or it is. -/
theorem handlers_cases (name : Text) :
    (handlers name = none ∧ ∀ command : Command, command.name ≠ name) ∨
      ∃ command : Command, command.name = name ∧ handlers name = some command.handler := by
  cases hcommand : Command.ofName? name with
  | none =>
    refine .inl ⟨by rw [handlers, hcommand]; rfl, ?_⟩
    rintro command rfl
    rw [Command.ofName?_name] at hcommand
    cases hcommand
  | some command =>
    exact .inr ⟨command, by simpa using List.find?_some hcommand, by rw [handlers, hcommand]; rfl⟩

/-- A command that changes the session is one of three. -/
theorem state_call_cases (s : Session) (segment : Segment) :
    (call handlers segment s).state = s ∨
      (segment.name = "config".toList ∧ handlers segment.name = some configCommand) ∨
      (segment.name = "convert".toList ∧ handlers segment.name = some convertCommand) ∨
      segment.name = "theme".toList ∧ handlers segment.name = some themeCommand := by
  rcases handlers_cases segment.name with ⟨hunknown, -⟩ | ⟨command, hname, hhandler⟩
  · exact .inl (by rw [call, hunknown])
  · cases command with
    | config => exact .inr (.inl ⟨hname.symm, hhandler⟩)
    | convert => exact .inr (.inr (.inl ⟨hname.symm, hhandler⟩))
    | help => exact .inl (state_call hhandler s)
    | quit => exact .inl (state_call hhandler s)
    | theme => exact .inr (.inr (.inr ⟨hname.symm, hhandler⟩))

/-- What a configuration command with the given arguments does to the session `s`. -/
inductive Configures (s : Session) : List Text → Outcome Session → Prop
  /-- It shows the configuration or refuses, and keeps the session. -/
  | keeps {arguments outcome} (state : outcome.state = s) : Configures s arguments outcome
  /-- It stores a value. A path below the theme section brings the theme of the new configuration
  along. -/
  | stores {path word words config warnings outcome}
      (stored : Configuration.set s.config path (.string (List.intercalate [' '] (word :: words))) =
        .ok (.stored config warnings))
      (answer : outcome.answer = answerCode 0)
      (state : outcome.state =
        if Text.startsWith path "theme." then ({ s with config } : Session).resetTheme.1
        else { s with config }) :
      Configures s ("set".toList :: path :: word :: words) outcome
  /-- It reads the settings file again, and takes the theme from there. -/
  | reloads {rest config outcome} (answer : outcome.answer = answerCode 0)
      (state : outcome.state = ({ s with config } : Session).resetTheme.1) :
      Configures s ("reset".toList :: rest) outcome

/-- A change of the configuration that is stored brings the theme along if its path leads below the
theme section. -/
theorem state_changeConfig_of_stored {path value : Text} {config : Json}
    {warnings : List Log.Entry}
    (h : Configuration.set s.config path (.string value) = .ok (.stored config warnings)) :
    (changeConfig path value s).state =
      if Text.startsWith path "theme." then ({ s with config } : Session).resetTheme.1
      else { s with config } := by
  rw [changeConfig, h]
  dsimp only
  split <;> rfl

/-- A change of the configuration that is stored succeeds. -/
theorem changeConfig_of_stored {path value : Text} {config : Json} {warnings : List Log.Entry}
    (h : Configuration.set s.config path (.string value) = .ok (.stored config warnings)) :
    (changeConfig path value s).answer = answerCode 0 ∧
      (changeConfig path value s).state.config = config := by
  constructor
  · rw [changeConfig, h]
  · rw [state_changeConfig_of_stored h]
    split <;> rfl

theorem configures_changeConfig (path word : Text) (words : List Text) (s : Session) :
    Configures s ("set".toList :: path :: word :: words)
      (changeConfig path (List.intercalate [' '] (word :: words)) s) := by
  cases hset : Configuration.set s.config path
      (.string (List.intercalate [' '] (word :: words))) with
  | error error => exact .keeps (by rw [changeConfig, hset])
  | ok change =>
    cases change with
    | refused reason => exact .keeps (by rw [changeConfig, hset])
    | stored config warnings =>
      exact .stores hset (changeConfig_of_stored hset).1 (state_changeConfig_of_stored hset)

theorem configures_resetConfig (rest : List Text) (s : Session) :
    Configures s ("reset".toList :: rest) (resetConfig s) := by
  rw [resetConfig]
  split
  · exact .keeps rfl
  · exact .reloads rfl rfl

theorem configures_configCommand (arguments : List Text) (s : Session) :
    Configures s arguments (configCommand arguments s) := by
  unfold configCommand
  split
  · exact .keeps rfl
  next action rest =>
    split_ifs with hlist hset hreset
    · exact .keeps rfl
    · subst hset
      split
      next path word words => exact configures_changeConfig path word words s
      next => exact .keeps rfl
    · subst hreset
      exact configures_resetConfig rest s
    · exact .keeps rfl

/-- What a theme command with the given arguments does to the session `s`. -/
inductive Rethemes (s : Session) : List Text → Outcome Session → Prop
  /-- It shows the theme or refuses, and keeps the session. -/
  | keeps {arguments outcome} (state : outcome.state = s) : Rethemes s arguments outcome
  /-- It gives the session the theme of three channels. -/
  | gives {hue saturation lightness : Text} {theme outcome}
      (channels : Theme.ofChannels (.string hue) (.string saturation) (.string lightness) =
        .ok theme)
      (answer : outcome.answer = answerCode 0) (state : outcome.state = { s with theme }) :
      Rethemes s ["set".toList, hue, saturation, lightness] outcome
  /-- It restores the theme of the configuration. -/
  | restores {rest outcome} (answer : outcome.answer = answerCode 0)
      (state : outcome.state = s.resetTheme.1) : Rethemes s ("reset".toList :: rest) outcome

theorem rethemes_changeTheme (hue saturation lightness : Text) (s : Session) :
    Rethemes s ["set".toList, hue, saturation, lightness]
      (changeTheme hue saturation lightness s) := by
  rw [changeTheme]
  split
  next theme hchannels => exact .gives hchannels rfl rfl
  next => exact .keeps rfl

theorem rethemes_themeCommand (arguments : List Text) (s : Session) :
    Rethemes s arguments (themeCommand arguments s) := by
  unfold themeCommand
  split
  · exact .keeps rfl
  next action rest =>
    split_ifs with hshow hset hreset
    · exact .keeps rfl
    · subst hset
      split
      next hue saturation lightness => exact rethemes_changeTheme hue saturation lightness s
      next => exact .keeps rfl
    · subst hreset
      exact .restores rfl rfl
    · exact .keeps rfl

/-- The conversion command keeps the session unless it has a job. -/
theorem convertCommand_cases (arguments : List Text) (s : Session) :
    (convertCommand arguments s).state = s ∨
      ∃ o job, readInquiry false arguments = .run o ∧ jobOf s o = .ok job ∧
        convertCommand arguments s = job.convertAll false s (o.files.map Path.parse) := by
  rw [convertCommand]
  split
  · exact .inl rfl
  · split
    next o harguments =>
      rw [convertFiles]
      split
      · exact .inl rfl
      · exact .inl rfl
      next job hjob => exact .inr ⟨o, job, harguments, hjob, rfl⟩
    next =>
      rw [showLast]
      split <;> exact .inl rfl
    next => exact .inl rfl
    next => exact .inl rfl

/-- What every turn keeps is kept by the conversion command. -/
theorem convertCommand_preserves {P : Session → Prop}
    (hturn : ∀ turn : Turn, P turn.before → P turn.after) (arguments : List Text) (hs : P s) :
    P (convertCommand arguments s).state := by
  rcases convertCommand_cases arguments s with hkeeps | ⟨o, job, -, -, hrun⟩
  · rwa [hkeeps]
  · rw [hrun]
    exact (succession_turns false s _).preserves (fun turn _ => hturn turn) hs

/-- The session `t` is `s` with another configuration and another theme at most. -/
def Adjusts (s t : Session) : Prop := ∃ config theme, t = { s with config, theme }

theorem Adjusts.refl (s : Session) : s.Adjusts s := ⟨s.config, s.theme, rfl⟩

theorem adjusts_resetTheme (s : Session) (config : Json) :
    s.Adjusts ({ s with config } : Session).resetTheme.1 := ⟨config, _, rfl⟩

theorem adjusts_configCommand (arguments : List Text) (s : Session) :
    s.Adjusts (configCommand arguments s).state := by
  cases configures_configCommand arguments s with
  | keeps hstate =>
    rw [hstate]
    exact .refl s
  | @stores _ _ _ config _ _ _ _ hstate =>
    rw [hstate]
    split
    · exact adjusts_resetTheme s config
    · exact ⟨config, s.theme, rfl⟩
  | @reloads _ config _ _ hstate =>
    rw [hstate]
    exact adjusts_resetTheme s config

theorem adjusts_themeCommand (arguments : List Text) (s : Session) :
    s.Adjusts (themeCommand arguments s).state := by
  cases rethemes_themeCommand arguments s with
  | keeps hstate =>
    rw [hstate]
    exact .refl s
  | gives _ _ hstate => exact ⟨s.config, _, hstate⟩
  | restores _ hstate =>
    rw [hstate]
    exact adjusts_resetTheme s s.config

/-- A command that converts no files changes the configuration and the theme at most. -/
theorem call_of_job?_eq_none (h : s.job? segment = none) :
    s.Adjusts (call handlers segment s).state := by
  rcases state_call_cases s segment with
    hkeeps | ⟨-, hhandler⟩ | ⟨hname, hhandler⟩ | ⟨-, hhandler⟩
  · rw [hkeeps]
    exact .refl s
  · rw [state_call hhandler]
    exact adjusts_configCommand _ s
  · rw [state_call hhandler]
    rcases convertCommand_cases segment.arguments s with hkeeps | ⟨o, job, harguments, hjob, -⟩
    · rw [hkeeps]
      exact .refl s
    · rw [job?_eq_some.2 ⟨hname, o, harguments, hjob, rfl⟩] at h
      cases h
  · rw [state_call hhandler]
    exact adjusts_themeCommand _ s

/-- A command leaves what its turns leave, with another configuration and another theme at most. -/
theorem exists_succession_call (s : Session) (segment : Segment) :
    ∃ t, Succession Turn.before Turn.after s (s.turns segment) t ∧
      t.Adjusts (call handlers segment s).state := by
  cases hjob : s.job? segment with
  | none =>
    -- there are no turns
    refine ⟨s, ?_, call_of_job?_eq_none hjob⟩
    rw [turns, hjob]
    exact .nil s
  | some asked => exact ⟨_, succession_call hjob, .refl _⟩

/-- The history grows by the records of the files that a command converts, in order. -/
theorem history_call (s : Session) (segment : Segment) :
    (call handlers segment s).state.history =
      s.history ++ (s.deliveries segment).map Delivery.record := by
  obtain ⟨t, hturns, config, theme, hstate⟩ := exists_succession_call s segment
  have hstart : s.history = s.history ++ [].map Delivery.record := (List.append_nil _).symm
  rw [hstate, deliveries, List.filterMap_eq_flatMap_toList]
  show t.history = _
  refine hturns.accumulates
    (T := fun t told => t.history = s.history ++ told.map Delivery.record) ?_ hstart
  intro turn _ told hbefore
  rw [Turn.after_eq]
  cases turn.delivery? <;> simp [record, hbefore]

/-! ### Commands that change the configuration -/

theorem config_after (turn : Turn) : turn.after.config = turn.before.config := by
  rw [Turn.after_eq]
  split <;> rfl

/-- The configuration command keeps the configuration, or succeeds and has stored a value or read
the settings file again. -/
theorem config_configCommand (arguments : List Text) (s : Session) :
    (configCommand arguments s).state.config = s.config ∨
      (configCommand arguments s).answer = answerCode 0 ∧
        ((∃ rest, arguments = "reset".toList :: rest) ∨
          ∃ path word words config warnings,
            arguments = "set".toList :: path :: word :: words ∧
            Configuration.set s.config path (.string (List.intercalate [' '] (word :: words))) =
              .ok (.stored config warnings) ∧
            (configCommand arguments s).state.config = config) := by
  cases configures_configCommand arguments s with
  | keeps hstate => exact .inl (by rw [hstate])
  | @stores path word words config warnings _ hstored hanswer hstate =>
    refine .inr ⟨hanswer, .inr ⟨path, word, words, config, warnings, rfl, hstored, ?_⟩⟩
    rw [hstate]
    split <;> rfl
  | reloads hanswer _ => exact .inr ⟨hanswer, .inl ⟨_, rfl⟩⟩

theorem config_themeCommand (arguments : List Text) (s : Session) :
    (themeCommand arguments s).state.config = s.config := by
  cases rethemes_themeCommand arguments s with
  | keeps hstate => rw [hstate]
  | gives _ _ hstate => rw [hstate]
  | restores _ hstate =>
    rw [hstate]
    rfl

theorem config_convertCommand (arguments : List Text) (s : Session) :
    (convertCommand arguments s).state.config = s.config :=
  convertCommand_preserves (P := fun t => t.config = s.config)
    (fun turn hbefore => (config_after turn).trans hbefore) arguments rfl

/-- A command changes the configuration only if it is the configuration command and succeeds: it
reads the settings file again or stores a value. -/
theorem call_config (s : Session) (segment : Segment) :
    (call handlers segment s).state.config = s.config ∨
      segment.name = "config".toList ∧ (call handlers segment s).code = 0 ∧
        ((∃ rest, segment.arguments = "reset".toList :: rest) ∨
          ∃ path word words config warnings,
            segment.arguments = "set".toList :: path :: word :: words ∧
            Configuration.set s.config path (.string (List.intercalate [' '] (word :: words))) =
              .ok (.stored config warnings) ∧
            (call handlers segment s).state.config = config) := by
  rcases state_call_cases s segment with
    hkeeps | ⟨hname, hhandler⟩ | ⟨-, hhandler⟩ | ⟨-, hhandler⟩
  · exact .inl (by rw [hkeeps])
  · rw [state_call hhandler]
    rcases config_configCommand segment.arguments s with hsame | ⟨hanswer, hchange⟩
    · exact .inl hsame
    · exact .inr ⟨hname, code_call hhandler hanswer, hchange⟩
  · rw [state_call hhandler]
    exact .inl (config_convertCommand segment.arguments s)
  · rw [state_call hhandler]
    exact .inl (config_themeCommand segment.arguments s)

/-- A change of the configuration that succeeds is stored. -/
theorem stored_of_code_eq_zero {path word : Text} {words : List Text}
    (hname : segment.name = "config".toList)
    (harguments : segment.arguments = "set".toList :: path :: word :: words)
    (h : (call handlers segment s).code = 0) :
    let value := List.intercalate [' '] (word :: words)
    ∃ config warnings,
      Configuration.set s.config path (.string value) = .ok (.stored config warnings) ∧
        (call handlers segment s).state = (changeConfig path value s).state := by
  intro value
  have hhandler : handlers segment.name = some configCommand := by rw [hname]; rfl
  have hrun : configCommand segment.arguments s = changeConfig path value s := by
    rw [harguments]
    rfl
  -- an error and a refusal have other codes
  cases hset : Configuration.set s.config path (.string value) with
  | error error =>
    rw [changeConfig, hset] at hrun
    rw [call_of_failure _ hhandler hrun] at h
    cases h
  | ok change =>
    cases change with
    | refused reason =>
      rw [changeConfig, hset] at hrun
      rw [call_of_answerCode _ hhandler hrun] at h
      cases h
    | stored config warnings =>
      exact ⟨config, warnings, rfl, by rw [state_call hhandler, hrun]⟩

/-! ### Lines -/

/-- The commands that lines run, one line after another. -/
def stepsOf (s : Session) : List Text → List (Step Session)
  | [] => []
  | line :: lines => stepsFrom handlers 0 s (segments line) ++ stepsOf (runLine line s).state lines

/-- The session after lines that are run one after another. -/
def runLines (s : Session) : List Text → Session
  | [] => s
  | line :: lines => runLines (runLine line s).state lines

/-- What a command in a session leads to. -/
def done (step : Step Session) : Run Session := step.run handlers

/-- The commands that lines run lead from the session before the lines to the session after them. -/
theorem succession_stepsOf (s : Session) (lines : List Text) :
    Succession Step.before (fun step => (done step).state) s (stepsOf s lines)
      (s.runLines lines) := by
  induction lines generalizing s with
  | nil => exact .nil s
  | cons line lines ih =>
    exact Succession.append_iff.2 ⟨_, succession_stepsFrom 0 s (segments line), ih _⟩

/-- The line that the shell gets, without the blanks around it. -/
def Input.line? : Input → Option Text
  | .line text => some (Text.trim text)
  | .interrupt => none

/-- What a shell leaves is what some of its lines leave, run one after another. -/
theorem exists_lines_interact (s : Session) (inputs : List Input) :
    ∃ lines, (interact s inputs).session = s.runLines lines ∧
      lines.Sublist (inputs.filterMap Input.line?) := by
  induction inputs generalizing s with
  | nil => exact ⟨[], rfl, List.nil_sublist _⟩
  | cons input inputs ih =>
    cases input with
    | interrupt => exact ⟨[], rfl, List.nil_sublist _⟩
    | line text =>
      rw [interact]
      dsimp only
      split
      · obtain ⟨lines, hlines, hsublist⟩ := ih s
        exact ⟨lines, hlines, hsublist.cons _⟩
      · split
        · exact ⟨[Text.trim text], rfl, by simp [Input.line?]⟩
        · obtain ⟨lines, hlines, hsublist⟩ := ih (runLine (Text.trim text) s).state
          exact ⟨Text.trim text :: lines, hlines, hsublist.cons_cons _⟩

end Componentry.Session
