import Componentry.Proofs.Component.Layout
import Componentry.Proofs.Session.Commands

/-!
# What commands answer

A command succeeds, fails, or is ended by an error, which is reported and counts as a failure. Only
the command to quit asks for the end of the session, and no command says what the shell says at its
end, for all that commands print starts with other characters.

* `Orderly`: the outcome of a command that lets the session go on;
* `orderly_configCommand`, `orderly_themeCommand`, `orderly_convertCommand`: what commands answer;
* `code_call_eq_quitCode_iff`: only the command to quit has the code that asks to quit;
* `farewell_not_mem_call`: no command says farewell.
-/

namespace Componentry.Session

open CommandLine

/-! ### What texts start with -/

/-- A text starts with another character than the farewell. -/
def startsOtherwise (t : Text) : Bool := t.head?.any fun c => farewell.head? ≠ some c

theorem startsOtherwise_append {t : Text} (h : startsOtherwise t) (rest : Text) :
    startsOtherwise (t ++ rest) := by
  cases t with
  | nil => cases h
  | cons c t => exact h

theorem startsOtherwise_of_not_mem {t : Text} (hne : t ≠ []) (h : 'B' ∉ t) :
    startsOtherwise t := by
  obtain ⟨c, rest, rfl⟩ := List.exists_cons_of_ne_nil hne
  refine decide_eq_true fun hfarewell => h ?_
  exact Option.some.inj hfarewell ▸ List.mem_cons_self

/-- The layout of digits has a point or an exponent, and no capital. -/
theorem startsOtherwise_layout {digits : Text} (h : 'B' ∉ digits) (exponent : Int) :
    startsOtherwise (Numeral.Double.layout digits exponent) := by
  have htake (k : Nat) : 'B' ∉ digits.take k := fun hB => h (List.mem_of_mem_take hB)
  have hdrop (k : Nat) : 'B' ∉ digits.drop k := fun hB => h (List.mem_of_mem_drop hB)
  have hpower : 'B' ∉ Text.ofNat exponent.natAbs := fun hB =>
    absurd (Text.isDigit_of_mem_ofNat hB) (by decide)
  refine startsOtherwise_of_not_mem ?_ ?_
  · rw [Numeral.Double.layout, Numeral.Double.positional.eq_def, Numeral.Double.scientific]
    split
    · split <;> simp
    · simp
  · rw [Numeral.Double.layout, Numeral.Double.positional.eq_def, Numeral.Double.scientific]
    split
    · split
      · dsimp only
        split <;> simp [htake, hdrop]
      · simp [h]
    · have htail : 'B' ∉ digits.tail := fun hB => h (List.mem_of_mem_tail hB)
      have hsign : 'B' ≠ if exponent < 0 then '-' else '+' := by
        split <;> decide
      simp [htake, htail, hpower, hsign]

theorem startsOtherwise_toText (negative : Bool) (m : Nat) (e : Int) :
    startsOtherwise (Numeral.Double.finite negative m e).toText := by
  cases negative with
  | true => rfl
  | false =>
    rw [Numeral.Double.toText]
    dsimp only
    rw [if_neg Bool.false_ne_true, List.nil_append]
    split
    · rfl
    · refine startsOtherwise_layout (fun hB => ?_) _
      rw [List.mem_reverse] at hB
      have hdigit := List.mem_reverse.1 ((List.dropWhile_suffix _).subset hB)
      exact absurd (Text.isDigit_of_mem_ofNat hdigit) (by decide)

theorem startsOtherwise_ofInt (n : Int) : startsOtherwise (Text.ofInt n) := by
  refine startsOtherwise_of_not_mem (Text.ofInt_ne_nil n) fun hB => ?_
  rcases Text.minus_or_isDigit_of_mem_ofInt hB with hminus | hdigit
  · exact absurd hminus (by decide)
  · exact absurd hdigit (by decide)

theorem startsOtherwise_numberText (x : Numeral.Double) :
    startsOtherwise (Json.numberText x) := by
  cases x with
  | nan => rfl
  | infinite negative => cases negative <;> rfl
  | finite negative m e => exact startsOtherwise_toText negative m e

/-- The text of a value starts with a digit, a sign, a bracket, a quotation mark or another
letter. -/
theorem startsOtherwise_indented (value : Json) : startsOtherwise value.indented := by
  rw [Json.indented, Json.indentedAt.eq_def]
  split
  · rfl
  · rfl
  · rfl
  · exact startsOtherwise_ofInt _
  · exact startsOtherwise_numberText _
  · rfl
  · rfl
  · rfl
  · rfl
  · rfl

/-- The text of a module starts with its import. -/
theorem startsOtherwise_source {settings : Settings} {markup artifact override : Text}
    {theme : Theme} {c : Conversion}
    (h : Conversion.convert settings markup artifact override theme = .ok c) :
    startsOtherwise c.source := by
  obtain ⟨document, -, hfollows⟩ := Conversion.follows_of_convert h
  obtain ⟨bundle, logic, hsource⟩ := hfollows.source
  rw [hsource]
  rfl

/-! ### Outcomes -/

/-- An output is a record, or prints a text that starts otherwise than the farewell. -/
def saysOtherwise : Output → Bool
  | .print text => startsOtherwise text
  | .log _ => true

theorem saysOtherwise_say {line : Text} (h : startsOtherwise line) : saysOtherwise (.say line) :=
  startsOtherwise_append h _

/-- What is said otherwise is no farewell. -/
theorem farewell_not_mem {outputs : List Output} (h : ∀ output ∈ outputs, saysOtherwise output) :
    Output.say farewell ∉ outputs := fun hmem =>
  absurd (h _ hmem) (by decide)

theorem saysOtherwise_of_mem_said {line : Text} (h : startsOtherwise line) :
    ∀ output ∈ [Output.say line], saysOtherwise output :=
  List.forall_mem_singleton.2 (saysOtherwise_say h)

theorem saysOtherwise_of_mem_logs {entries : List Log.Entry} :
    ∀ output ∈ logs entries, saysOtherwise output := by
  intro output houtput
  obtain ⟨entry, -, rfl⟩ := List.mem_map.1 houtput
  rfl

theorem saysOtherwise_of_mem_logs_append {entries : List Log.Entry} {line : Text}
    (h : startsOtherwise line) : ∀ output ∈ logs entries ++ [.say line], saysOtherwise output :=
  List.forall_mem_append.2 ⟨saysOtherwise_of_mem_logs, saysOtherwise_of_mem_said h⟩

/-- The outcome of a command that does not ask to quit and does not say farewell. -/
structure Orderly (o : Outcome Session) : Prop where
  /-- The command has succeeded or failed, or an error has ended it. -/
  answer : o.answer = answerCode 0 ∨ o.answer = answerCode 1 ∨
    ∃ message, o.answer = .failure message
  /-- It prints other things. -/
  outputs : ∀ output ∈ o.outputs, saysOtherwise output

section

variable {s : Session} {outputs : List Output} {line : Text}

theorem orderly_success (h : ∀ output ∈ outputs, saysOtherwise output) :
    Orderly ⟨answerCode 0, s, outputs⟩ := ⟨.inl rfl, h⟩

theorem orderly_failure (h : ∀ output ∈ outputs, saysOtherwise output) :
    Orderly ⟨answerCode 1, s, outputs⟩ := ⟨.inr (.inl rfl), h⟩

theorem orderly_error {message : Text} (h : ∀ output ∈ outputs, saysOtherwise output) :
    Orderly ⟨.failure message, s, outputs⟩ := ⟨.inr (.inr ⟨message, rfl⟩), h⟩

theorem orderly_saying_success (h : startsOtherwise line) : Orderly (saying 0 line s) :=
  orderly_success (saysOtherwise_of_mem_said h)

theorem orderly_saying_failure (h : startsOtherwise line) : Orderly (saying 1 line s) :=
  orderly_failure (saysOtherwise_of_mem_said h)

end

/-! ### The configuration and the theme -/

theorem orderly_changeConfig (path value : Text) (s : Session) :
    Orderly (changeConfig path value s) := by
  rw [changeConfig]
  split
  · exact orderly_error (List.forall_mem_nil _)
  · exact orderly_failure (List.forall_mem_cons.2 ⟨rfl, saysOtherwise_of_mem_said rfl⟩)
  · exact orderly_success (saysOtherwise_of_mem_logs_append rfl)

theorem orderly_configCommand (arguments : List Text) (s : Session) :
    Orderly (configCommand arguments s) := by
  unfold configCommand
  split
  · exact orderly_saying_failure rfl
  · split_ifs
    · exact orderly_saying_success (startsOtherwise_indented s.config)
    · split
      · exact orderly_changeConfig _ _ s
      · exact orderly_saying_failure rfl
    · rw [resetConfig]
      split
      · exact orderly_error (List.forall_mem_nil _)
      · exact orderly_success (saysOtherwise_of_mem_logs_append rfl)
    · exact orderly_saying_failure rfl

theorem orderly_themeCommand (arguments : List Text) (s : Session) :
    Orderly (themeCommand arguments s) := by
  unfold themeCommand
  split
  · exact orderly_saying_success rfl
  · split_ifs
    · exact orderly_saying_success rfl
    · split
      · rw [changeTheme]
        split
        · exact orderly_saying_success rfl
        · exact orderly_saying_failure rfl
      · exact orderly_saying_failure rfl
    · exact orderly_success (saysOtherwise_of_mem_logs_append rfl)
    · exact orderly_saying_failure rfl

/-! ### Conversions -/

/-- Converting a file prints its module at most. -/
theorem saysOtherwise_of_mem_attempt (job : Job) (source : Path) (disk : Disk) :
    ∀ output ∈ (job.attempt source disk).outputs, saysOtherwise output := by
  have hwarnings : ∀ output ∈ backendWarnings job.settings, saysOtherwise output := by
    rw [backendWarnings]
    split
    · exact List.forall_mem_nil _
    · exact List.forall_mem_singleton.2 rfl
  rw [Job.attempt]
  split
  · exact List.forall_mem_nil _
  · dsimp only
    split
    · exact hwarnings
    next conversion hconversion =>
      refine List.forall_mem_append.2 ⟨hwarnings, ?_⟩
      rw [Job.deliver]
      split
      · exact saysOtherwise_of_mem_said (startsOtherwise_source hconversion)
      · split <;> exact List.forall_mem_nil _

theorem saysOtherwise_of_mem_shown (job : Job) (s : Session) (source : Path) :
    ∀ output ∈ (job.attemptOne s source).1.shown, saysOtherwise output := by
  have hattempt := saysOtherwise_of_mem_attempt job source s.disk
  cases hresult : (job.attempt source s.disk).result with
  | ok converted =>
    obtain ⟨conversion, file?⟩ := converted
    rw [Fate.shown, attemptOne_of_ok hresult]
    refine List.forall_mem_append.2 ⟨hattempt, ?_⟩
    dsimp only
    rw [successOutputs]
    split
    · exact saysOtherwise_of_mem_said rfl
    · exact List.forall_mem_nil _
  | error error =>
    rw [Fate.shown, attemptOne_of_error hresult]
    exact List.forall_mem_append.2
      ⟨hattempt, List.forall_mem_cons.2 ⟨rfl, saysOtherwise_of_mem_said rfl⟩⟩

/-- A batch of files is orderly, since each of its files is. -/
theorem orderly_convertAll (job : Job) (failed : Bool) (s : Session) (files : List Path) :
    Orderly (job.convertAll failed s files) := by
  induction files generalizing failed s with
  | nil =>
    cases failed with
    | true => exact orderly_failure (List.forall_mem_nil _)
    | false => exact orderly_success (List.forall_mem_nil _)
  | cons source files ih =>
    have hshown := saysOtherwise_of_mem_shown job s source
    by_cases hstops : (job.attemptOne s source).1.Stops
    · obtain ⟨error, heq, -, hrun⟩ := convertAll_cons_of_stops failed files hstops
      rw [heq, List.forall_mem_append] at hshown
      rw [hrun]
      exact orderly_error hshown.1
    · rw [convertAll_cons_of_not_stops hstops]
      have hrest := ih (failed || (job.attemptOne s source).1.failed) (job.attemptOne s source).2
      exact ⟨hrest.answer, List.forall_mem_append.2 ⟨hshown, hrest.outputs⟩⟩

theorem orderly_showLast (s : Session) : Orderly (showLast s) := by
  rw [showLast]
  split
  · exact orderly_failure (saysOtherwise_of_mem_said rfl)
  · refine orderly_success (List.forall_mem_append.2 ⟨List.forall_mem_append.2
      ⟨List.forall_mem_append.2 ⟨?_, ?_⟩, saysOtherwise_of_mem_said rfl⟩, ?_⟩)
    · exact List.forall_mem_cons.2
        ⟨rfl, List.forall_mem_cons.2 ⟨rfl, saysOtherwise_of_mem_said rfl⟩⟩
    · exact List.forall_mem_map.2 fun unit _ => rfl
    · exact List.forall_mem_map.2 fun field _ => rfl

theorem startsOtherwise_page (page : Page) : startsOtherwise page.text := by
  cases page <;> rfl

theorem startsOtherwise_of_jobTheme {s : Session} {given line : Text}
    (h : jobTheme s given = .error (.said line)) : startsOtherwise line := by
  rw [jobTheme] at h
  split at h
  · cases h
  · split at h
    · cases h
    · cases h
      rfl

theorem startsOtherwise_of_jobStyles {disk : Disk} {given line : Text}
    (h : jobStyles disk given = .error (.said line)) : startsOtherwise line := by
  rw [jobStyles] at h
  split at h
  · cases h
  · split at h
    · split at h <;> cases h
    · cases h
    · cases h
      rfl

/-- What is said of files that are not converted at all. -/
theorem startsOtherwise_of_jobOf {s : Session} {o : RunOptions} {line : Text}
    (h : jobOf s o = .error (.said line)) : startsOtherwise line := by
  rw [jobOf] at h
  dsimp only at h
  split at h
  · cases h
    rfl
  · rcases Except.bind_eq_error.1 h with htheme | ⟨theme, -, h⟩
    · exact startsOtherwise_of_jobTheme htheme
    · rcases Except.bind_eq_error.1 h with hstyles | ⟨styles, -, h⟩
      · exact startsOtherwise_of_jobStyles hstyles
      · -- settings that are refused end the command with an error
        cases hsettings : conversionSettings s.file.platform.slash s.config <;>
          rw [hsettings] at h <;> cases h

theorem orderly_convertCommand (arguments : List Text) (s : Session) :
    Orderly (convertCommand arguments s) := by
  rw [convertCommand]
  split
  · exact orderly_success (List.forall_mem_singleton.2 (startsOtherwise_page .overview))
  · split
    · rw [convertFiles]
      split
      next line hline =>
        exact orderly_failure (saysOtherwise_of_mem_said (startsOtherwise_of_jobOf hline))
      next => exact orderly_error (List.forall_mem_nil _)
      next => exact orderly_convertAll _ false s _
    · exact orderly_showLast s
    next page _ => exact orderly_failure (List.forall_mem_singleton.2 (startsOtherwise_page page))
    next => exact orderly_failure (List.forall_mem_nil _)

/-! ### Commands -/

variable {s : Session} {segment : Segment}

/-- An error that ends a command is reported under its name. -/
theorem reports_of_error {command : Handler Session}
    (hhandler : handlers segment.name = some command) {message : Text}
    (h : (command segment.arguments s).answer.code = .error message) :
    (call handlers segment s).code = failureCode ∧
      (call handlers segment s).outputs =
        (command segment.arguments s).outputs ++ failureOutputs segment.name message := by
  rw [call, hhandler]
  dsimp only
  rw [h]
  exact ⟨rfl, rfl⟩

/-- An orderly command has the code of a success or of a failure. -/
theorem code_call_of_orderly {command : Handler Session}
    (hhandler : handlers segment.name = some command)
    (h : Orderly (command segment.arguments s)) :
    (call handlers segment s).code = 0 ∨ (call handlers segment s).code = 1 := by
  rcases h.answer with hanswer | hanswer | ⟨message, hanswer⟩
  · exact .inl (code_call hhandler hanswer)
  · exact .inr (code_call hhandler hanswer)
  · exact .inr (reports_of_error hhandler (by rw [hanswer]; rfl)).1

theorem saysOtherwise_of_mem_call {command : Handler Session}
    (hhandler : handlers segment.name = some command)
    (h : ∀ output ∈ (command segment.arguments s).outputs, saysOtherwise output) :
    ∀ output ∈ (call handlers segment s).outputs, saysOtherwise output := by
  rw [call, hhandler]
  dsimp only
  split
  · exact h
  · refine List.forall_mem_append.2 ⟨h, ?_⟩
    exact List.forall_mem_cons.2 ⟨rfl, saysOtherwise_of_mem_said rfl⟩

/-- Every command but the one to quit is orderly. -/
theorem orderly_handler {command : Command} (h : command ≠ .quit) (arguments : List Text)
    (s : Session) : Orderly (command.handler arguments s) := by
  cases command with
  | config => exact orderly_configCommand arguments s
  | convert => exact orderly_convertCommand arguments s
  | help => exact orderly_saying_success rfl
  | quit => exact absurd rfl h
  | theme => exact orderly_themeCommand arguments s

/-- Only the command to quit asks to quit, whatever other commands fail with. -/
theorem code_call_eq_quitCode_iff :
    (call handlers segment s).code = quitCode ↔ segment.name = "quit".toList := by
  rcases handlers_cases segment.name with ⟨hunknown, hname⟩ | ⟨command, hname, hhandler⟩
  · rw [call, hunknown]
    have hcode : unknownCode ≠ quitCode := by decide
    exact iff_of_false hcode (Ne.symm (hname .quit))
  · by_cases hquit : command = .quit
    · subst hquit
      exact iff_of_true (code_call hhandler rfl) hname.symm
    · refine iff_of_false (fun hcode => ?_) (fun hsame => hquit ?_)
      · rcases code_call_of_orderly hhandler (orderly_handler hquit segment.arguments s) with
          hzero | hone
        · exact absurd (hzero.symm.trans hcode) (by decide)
        · exact absurd (hone.symm.trans hcode) (by decide)
      · rw [← hname] at hsame
        cases command with
        | quit => rfl
        | _ => exact absurd hsame (by decide)

/-- No command says farewell. -/
theorem farewell_not_mem_call (s : Session) (segment : Segment) :
    Output.say farewell ∉ (call handlers segment s).outputs := by
  refine farewell_not_mem ?_
  rcases handlers_cases segment.name with ⟨hunknown, -⟩ | ⟨command, -, hhandler⟩
  · rw [call, hunknown]
    exact saysOtherwise_of_mem_said rfl
  · refine saysOtherwise_of_mem_call hhandler ?_
    by_cases hquit : command = .quit
    · subst hquit
      exact List.forall_mem_nil _
    · exact (orderly_handler hquit segment.arguments s).outputs

end Componentry.Session
