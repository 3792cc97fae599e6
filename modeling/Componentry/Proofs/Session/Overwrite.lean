import Componentry.Proofs.Configuration.Cast
import Componentry.Proofs.Session.Output

/-!
# Replacing files

A setting says whether files may be replaced. Once it has been given a text that stands for false,
it keeps what has been stored for that text until a command sets it or a section around it, or reads
the settings file again. What has been stored depends on the value that was there before: if it
counts as nothing, no file is replaced any more, and otherwise all are.

* `overwriteSetting_eq_of_succession`: the setting stays as it is;
* `Protects`, `Replaces`: what a command does to the files that are there;
* `switching_overwrite_off`: what the setting makes later commands do.
-/

namespace Componentry.Session

open CommandLine

variable {s t : Session} {step : Step Session}

/-- The path of the setting that says whether files may be replaced. -/
def overwritePath : Text := "export.overwrite"

/-- The value of that setting, which is absent if there is none. -/
def overwriteSetting (s : Session) : Json :=
  Configuration.lookup (Configuration.keys overwritePath) s.config

/-- A setting that is there allows replacing files unless it counts as nothing. -/
theorem mayReplace_of_isSettled (h : Configuration.IsSettled s.overwriteSetting) :
    s.mayReplace = !s.overwriteSetting.isNothing := by
  have hvalue : Configuration.get s.config overwritePath (.bool true) = s.overwriteSetting :=
    Configuration.get_of_isSettled h (.bool true)
  rw [← hvalue]
  rfl

/-! ### The setting -/

/-- The command sets the setting or a section around it, or reads the settings file again. -/
def Resets (step : Step Session) : Prop :=
  step.segment.name = "config".toList ∧ (done step).code = 0 ∧
    ((∃ rest, step.segment.arguments = "reset".toList :: rest) ∨
      ∃ path values, step.segment.arguments = "set".toList :: path :: values ∧
        Configuration.keys path <+: Configuration.keys overwritePath)

/-- Other commands leave a setting that is there as it is. -/
theorem overwriteSetting_done (hresets : ¬ Resets step)
    (hsettled : Configuration.IsSettled step.before.overwriteSetting) :
    (done step).state.overwriteSetting = step.before.overwriteSetting := by
  rcases call_config step.before step.segment with hsame | ⟨hname, hcode, hchange⟩
  · rw [overwriteSetting, done, Step.run, hsame]
    rfl
  · rcases hchange with hreset | ⟨path, word, words, config, warnings, hset, hstored, hconfig⟩
    · exact absurd ⟨hname, hcode, .inl hreset⟩ hresets
    · -- what is stored is stored elsewhere
      have hleads : ¬ Configuration.keys path <+: Configuration.keys overwritePath :=
        fun hleads => hresets ⟨hname, hcode, .inr ⟨path, word :: words, hset, hleads⟩⟩
      rw [overwriteSetting, done, Step.run, hconfig]
      exact Configuration.lookup_set_of_settled hstored hleads hsettled

theorem overwriteSetting_eq_of_succession {steps : List (Step Session)}
    (h : Succession Step.before (fun step => (done step).state) s steps t)
    (hresets : ∀ step ∈ steps, ¬ Resets step)
    (hsettled : Configuration.IsSettled s.overwriteSetting) :
    t.overwriteSetting = s.overwriteSetting := by
  refine h.preserves (P := fun u => u.overwriteSetting = s.overwriteSetting) ?_ rfl
  intro step hstep hbefore
  rw [overwriteSetting_done (hresets step hstep) (hbefore ▸ hsettled), hbefore]

/-! ### Commands that meet files -/

/-- The command changes no file that is there, and a component whose place is taken counts as a
failure, which is reported. -/
structure Protects (step : Step Session) : Prop where
  /-- A file that is there keeps its content. -/
  files : ∀ p data, step.before.disk.read p = .ok data → (done step).state.disk.read p = .ok data
  /-- What would be written to a place that is taken is reported, and the command fails. -/
  reports : ∀ turn ∈ step.before.turns step.segment, ∀ goal, turn.goal? = some goal →
    goal.disk.holds goal.path = .ok true →
      turn.attempt.result = .error (.unwritten (.occupied goal.path)) ∧
      localFailureOutputs turn.source (.unwritten (.occupied goal.path)) <:+: (done step).outputs ∧
      (done step).code = 1

/-- The command puts a component in the place of every file that stands in its way. -/
def Replaces (step : Step Session) : Prop :=
  ∀ turn ∈ step.before.turns step.segment, ∀ goal, turn.goal? = some goal →
    ∀ data, goal.disk.read goal.path = .ok data →
      turn.attempt.result = .ok (goal.conversion, some goal.path) ∧
      turn.after.disk.read goal.path = .ok (Utf8.encode goal.conversion.source)

theorem protects_of_not_mayReplace (hoff : step.before.mayReplace = false) : Protects step where
  files p data hread := by
    obtain ⟨at_, hlocate, hfile⟩ := Disk.read_eq_ok.1 hread
    obtain ⟨t, hturns, hdisk⟩ := exists_succession_disk step.before step.segment
    have hthere : step.before.disk.find? at_ ≠ none := by simp [hfile]
    have hnowhere := forall_not_liesAt hturns (forall_mem_turns_not_mayReplace hoff) hthere
    have hafter := find?_of_succession hturns hfile
    rw [contentAfter_of_forall_not hnowhere] at hafter
    rw [done, Step.run, hdisk]
    exact Disk.read_eq_ok.2 ⟨at_, (grows_of_succession hturns).locate hlocate, hafter⟩
  reports turn hturn goal hgoal hholds := by
    obtain ⟨e, hdestination, -, hwrite⟩ := Turn.attempt_of_goal? hgoal
    have hoverwrite : e.overwrite = false := by
      rw [overwrite_of_mem_turns hturn hdestination, hoff]
    rw [Export.writeTo_of_occupied hoverwrite hholds] at hwrite
    exact ⟨hwrite.1, reports_call hturn hwrite.1 rfl⟩

theorem replaces_of_mayReplace (hon : step.before.mayReplace = true) : Replaces step := by
  intro turn hturn goal hgoal data hread
  obtain ⟨at_, hlocate, hfile⟩ := Disk.read_eq_ok.1 hread
  obtain ⟨e, hdestination, -, hwrite⟩ := Turn.attempt_of_goal? hgoal
  have hoverwrite : e.overwrite = true := by
    rw [overwrite_of_mem_turns hturn hdestination, hon]
  have hfree : goal.disk.find? at_ ≠ some .directory := by simp [hfile]
  have hwritten : e.writeTo goal.conversion goal.path goal.disk =
      .ok (goal.disk.put at_ (.file (Utf8.encode goal.conversion.source))) :=
    Export.writeTo_eq_ok.2 ⟨at_, hlocate, hfree, by simp [hoverwrite], rfl⟩
  rw [hwritten] at hwrite
  refine ⟨hwrite.1, ?_⟩
  rw [Turn.disk_after, hwrite.2]
  exact Disk.read_put hlocate hfree _

/-! ### Switching the setting off -/

/-- What a command that gives the setting a text that stands for false leaves. -/
theorem exists_overwriteSetting_of_false {v : Text} {operator? : Option Operator}
    (hv : v.lower ∈ Configuration.falseTexts)
    (hsegment : step.segment = ⟨"config".toList, ["set".toList, overwritePath, v], operator?⟩)
    (hcode : (done step).code = 0) :
    Configuration.IsSettled (done step).state.overwriteSetting ∧
      ((done step).state.overwriteSetting.isNothing = true ↔
        Configuration.SwitchesOff step.before.overwriteSetting v) := by
  rw [done, Step.run, hsegment] at hcode ⊢
  obtain ⟨config, warnings, hset, hstate⟩ := stored_of_code_eq_zero rfl rfl hcode
  rw [List.intercalate_singleton] at hset hstate
  have hconfig := congrArg Session.config hstate |>.trans (changeConfig_of_stored hset).2
  obtain ⟨value, hvalue, hsettled, hnothing⟩ :=
    Configuration.exists_stored_of_false hv step.before.overwriteSetting
  have hlookup := Configuration.lookup_set_self hset
  rw [← overwriteSetting, hvalue] at hlookup
  rw [overwriteSetting, hconfig, ← Except.ok.inj hlookup]
  exact ⟨hsettled, hnothing⟩

/-- After a command has given the setting a text that stands for false, commands replace no files
until the setting or a section around it is set again or the settings file is read again, if a truth
value was there before, or a number and the text is the digit zero. If not, they replace all files
that stand in their way. -/
theorem switching_overwrite_off {s : Session} {lines : List Text}
    {earlier between later : List (Step Session)} {setting conversion : Step Session} {v : Text}
    {operator? : Option Operator}
    (hsteps : stepsOf s lines = earlier ++ setting :: (between ++ conversion :: later))
    (hsegment : setting.segment = ⟨"config".toList, ["set".toList, overwritePath, v], operator?⟩)
    (hcode : (done setting).code = 0) (hv : v.lower ∈ Configuration.falseTexts)
    (hbetween : ∀ step ∈ between, ¬ Resets step) :
    (Configuration.SwitchesOff setting.before.overwriteSetting v → Protects conversion) ∧
      (¬ Configuration.SwitchesOff setting.before.overwriteSetting v → Replaces conversion) := by
  obtain ⟨hsettled, hnothing⟩ := exists_overwriteSetting_of_false hv hsegment hcode
  have hrun := succession_stepsOf s lines
  rw [hsteps] at hrun
  -- the run is cut before the setting is changed, after that, and before the conversion
  obtain ⟨t, -, hsetting⟩ := Succession.append_iff.1 hrun
  obtain ⟨-, hafter⟩ := Succession.cons_iff.1 hsetting
  obtain ⟨u, hmiddle, hconversion⟩ := Succession.append_iff.1 hafter
  obtain ⟨rfl, -⟩ := Succession.cons_iff.1 hconversion
  -- what has been stored is still there when the conversion begins
  have hsame := overwriteSetting_eq_of_succession hmiddle hbetween hsettled
  have hreplaces := mayReplace_of_isSettled (hsame ▸ hsettled)
  rw [hsame] at hreplaces
  constructor
  · intro hoff
    exact protects_of_not_mayReplace (by rw [hreplaces, hnothing.2 hoff]; rfl)
  · intro hon
    have hthere := Bool.eq_false_iff.2 (mt hnothing.1 hon)
    exact replaces_of_mayReplace (by rw [hreplaces, hthere]; rfl)

/-- In the configuration that the program comes with the setting is a truth value. -/
theorem switching_overwrite_off_shipped :
    let s := fresh [("a.html", "<p>x</p>"), ("A.tsx", "old")]
    let lines := ["config set export.overwrite No".toList, "convert run a.html".toList]
    ∃ setting conversion, stepsOf s lines = [setting, conversion] ∧ (done setting).code = 0 ∧
      (done conversion).code = 1 ∧ Protects conversion := by
  intro s lines
  have hlength : (stepsOf s lines).length = 2 := by decide +kernel
  have hsegments : (stepsOf s lines).map Step.segment =
      [⟨"config".toList, ["set".toList, overwritePath, "No".toList], none⟩,
        ⟨"convert".toList, ["run".toList, "a.html".toList], none⟩] := by decide +kernel
  have hcodes : (stepsOf s lines).map (fun step => (done step).code) = [0, 1] := by
    decide +kernel
  have hrun := succession_stepsOf s lines
  obtain ⟨setting, conversion, hsteps⟩ := List.length_eq_two.1 hlength
  rw [hsteps] at hsegments hcodes hrun
  obtain ⟨hsegment, -⟩ := List.cons.inj hsegments
  obtain ⟨hcode, hfails⟩ := List.cons.inj hcodes
  obtain ⟨hbefore, -⟩ := Succession.cons_iff.1 hrun
  have hsplit : stepsOf s lines = [] ++ setting :: ([] ++ conversion :: []) := hsteps
  have hoff : Configuration.SwitchesOff setting.before.overwriteSetting "No".toList := by
    rw [hbefore]
    trivial
  refine ⟨setting, conversion, hsteps, hcode, (List.cons.inj hfails).1, ?_⟩
  exact (switching_overwrite_off hsplit hsegment hcode (by decide +kernel)
    (List.forall_mem_nil _)).1 hoff

/-- A text that is no truth value has been stored before, so that the text that stands for false is
stored as a text, too. The file is replaced, and the command succeeds. -/
theorem false_after_text_replaces :
    let s := fresh [("a.html", "<p>x</p>"), ("A.tsx", "old")]
    let settings :=
      ["config set export.overwrite maybe".toList, "config set export.overwrite false".toList]
    let conversion := "convert run a.html".toList
    (stepsOf s (settings ++ [conversion])).map (fun step => (step.segment, (done step).code)) =
        [(⟨"config".toList, ["set".toList, overwritePath, "maybe".toList], none⟩, 0),
          (⟨"config".toList, ["set".toList, overwritePath, "false".toList], none⟩, 0),
          (⟨"convert".toList, ["run".toList, "a.html".toList], none⟩, 0)] ∧
      (s.runLines settings).disk.read (Path.parse "A.tsx") = .ok (Utf8.encode "old") ∧
      (s.runLines (settings ++ [conversion])).disk.read (Path.parse "A.tsx") ≠
        .ok (Utf8.encode "old") := by
  decide +kernel

end Componentry.Session
