import Componentry.Proofs.Outcome
import Componentry.Proofs.Session.Commands

/-!
# History of a session

What a session tells of the conversions so far: their records, the result of the last one, and the
variables with its component and its output. All three tell of the same conversions, which are those
of the files that have been converted, in order. Commands that convert no file and files that fail
leave them as they are.

* `Tells`, `Consistent`: what a session tells of;
* `tells_call`: a command adds the files that it converts;
* `history_tells_of_conversions`: the session between any two commands;
* `consistent_shell`: the session that a shell leaves.
-/

namespace Componentry.Session

open CommandLine

variable {s : Session} {told : List Delivery}

/-- What a session tells of conversions. -/
def memory (s : Session) : List Record × Option Conversion × List (Text × Text) :=
  (s.history, s.last?, s.bindings)

/-- The variables after a conversion; there are none before the first one. -/
def variablesOf : Option Delivery → List (Text × Text)
  | none => []
  | some d =>
    [(componentVariable, d.record.component), (outputVariable, d.record.output?.getD [])]

/-- The session tells of these conversions, and of no others. -/
structure Tells (s : Session) (told : List Delivery) : Prop where
  /-- Each of them has its record, in order. -/
  history : s.history = told.map Delivery.record
  /-- The last result is that of the last one. -/
  last : s.last? = told.getLast?.map Delivery.conversion
  /-- The variables are those of the last one. -/
  bindings : s.bindings = variablesOf told.getLast?

/-- The history, the last result and the variables of a session agree with one another. -/
structure Consistent (s : Session) : Prop where
  /-- There is a last result if there is a record. -/
  last_none : s.history = [] ↔ s.last? = none
  /-- There are variables if there is a record. -/
  bindings_nil : s.history = [] ↔ s.bindings = []
  /-- The last record, the last result and the variables are about the same conversion. -/
  last_record : ∀ r, s.history.getLast? = some r → ∃ conversion, s.last? = some conversion ∧
    r.component = conversion.name ∧ r.unitCount = conversion.units.length ∧
    r.fieldCount = conversion.fields.length ∧
    s.bindings = [(componentVariable, r.component), (outputVariable, r.output?.getD [])]

/-- What a session tells of conversions is settled by the conversions. -/
theorem Tells.memory_eq {t : Session} (h : s.Tells told) (ht : t.Tells told) :
    t.memory = s.memory := by
  rw [memory, memory, ht.history, ht.last, ht.bindings, h.history, h.last, h.bindings]

theorem Tells.consistent (h : s.Tells told) : s.Consistent := by
  cases hlast : told.getLast? with
  -- nothing has been converted
  | none =>
    obtain rfl := List.getLast?_eq_none_iff.1 hlast
    refine ⟨?_, ?_, fun r hr => ?_⟩
    · simp [h.history, h.last]
    · simp [h.history, h.bindings, variablesOf]
    · simp [h.history] at hr
  | some d =>
    have hsome : told ≠ [] := by
      rintro rfl
      cases hlast
    refine ⟨?_, ?_, fun r hr => ?_⟩
    · simp [h.history, h.last, hsome]
    · simp [h.history, h.bindings, hlast, hsome, variablesOf]
    · rw [h.history, List.getLast?_map, hlast] at hr
      obtain rfl := Option.some.inj hr
      refine ⟨d.conversion, ?_, rfl, rfl, rfl, ?_⟩
      · rw [h.last, hlast]
        rfl
      · rw [h.bindings, hlast]
        rfl

/-! ### What a command adds -/

/-- The variables of a conversion take the place of those of the one before it. -/
theorem putVariable_variablesOf (last? : Option Delivery) (r : Record) :
    putVariable outputVariable (r.output?.getD [])
        (putVariable componentVariable r.component (variablesOf last?)) =
      [(componentVariable, r.component), (outputVariable, r.output?.getD [])] := by
  have hne : componentVariable ≠ outputVariable := by decide
  cases last? <;> simp [variablesOf, putVariable, hne]

/-- A turn adds the file, if it is converted. -/
theorem Turn.tells_after {turn : Turn} (h : turn.before.Tells told) :
    turn.after.Tells (told ++ turn.delivery?.toList) := by
  rw [Turn.after_eq]
  cases turn.delivery? with
  | none =>
    rw [Option.toList_none, List.append_nil]
    exact ⟨h.history, h.last, h.bindings⟩
  | some d =>
    rw [Option.toList_some]
    refine ⟨?_, ?_, ?_⟩
    · simp [record, h.history]
    · simp [record]
    · rw [List.getLast?_concat]
      dsimp only [record]
      rw [h.bindings, putVariable_variablesOf]
      rfl

theorem Turn.memory_after_of_failed {turn : Turn} (h : turn.fate.failed = true) :
    turn.after.memory = turn.before.memory := by
  rw [Turn.after_eq, Turn.failed_iff.1 h]
  rfl

/-- A command adds the files that it converts. -/
theorem tells_call (h : s.Tells told) (segment : Segment) :
    (call handlers segment s).state.Tells (told ++ s.deliveries segment) := by
  obtain ⟨t, hturns, config, theme, hstate⟩ := exists_succession_call s segment
  have hall : t.Tells (told ++ s.deliveries segment) := by
    rw [deliveries, List.filterMap_eq_flatMap_toList]
    exact hturns.accumulates (fun _ _ _ hbefore => Turn.tells_after hbefore) h
  rw [hstate]
  exact ⟨hall.history, hall.last, hall.bindings⟩

/-! ### What lines add -/

/-- The files that a command in a session converts, in order. -/
def converted (step : Step Session) : List Delivery := step.before.deliveries step.segment

/-- What commands leave that are run one after another. -/
def leave (s : Session) (steps : List (Step Session)) : Session :=
  (steps.getLast?.map fun step => (done step).state).getD s

theorem tells_start {file : Configuration.File} {disk : Disk} {entries : List Log.Entry}
    (h : start file disk = .ok (s, entries)) : s.Tells [] := by
  obtain ⟨⟨config, warnings⟩, -, hs⟩ := Except.map_eq_ok.1 h
  obtain ⟨rfl, -⟩ := Prod.mk.inj hs
  exact ⟨rfl, rfl, rfl⟩

/-- Commands add the files that they convert, one command after another. -/
theorem tells_of_succession {t : Session} {steps : List (Step Session)}
    (h : Succession Step.before (fun step => (done step).state) s steps t) (hs : s.Tells told) :
    t.Tells (told ++ steps.flatMap converted) :=
  h.accumulates (fun step _ _ hbefore => tells_call hbefore step.segment) hs

/-- Between any two commands of a session, the history, the last result and the variables agree with
one another and tell of the files that have been converted, in order. The next command adds the
files that it converts. One that converts no file changes nothing of them, whether it fails or not,
no more than a file that fails does; and only the conversion command converts files. -/
theorem history_tells_of_conversions {file : Configuration.File} {disk : Disk}
    {entries : List Log.Entry} (hstart : start file disk = .ok (s, entries)) (lines : List Text)
    {earlier later : List (Step Session)} (hsteps : stepsOf s lines = earlier ++ later) :
    let context := s.leave earlier
    context.Consistent ∧ context.Tells (earlier.flatMap converted) ∧
      ∀ step rest, later = step :: rest →
        step.before = context ∧ (done step).state = s.leave (earlier ++ [step]) ∧
        (done step).state.history = context.history ++ (converted step).map Delivery.record ∧
        (converted step = [] → (done step).state.memory = context.memory) ∧
        (step.segment.name ≠ "convert".toList → converted step = []) ∧
        ∀ turn ∈ context.turns step.segment, turn.fate.failed = true →
          turn.after.memory = turn.before.memory := by
  intro context
  have hrun := succession_stepsOf s lines
  rw [hsteps] at hrun
  obtain ⟨t, hearlier, hlater⟩ := Succession.append_iff.1 hrun
  -- the session between the two parts is the one that the last of the earlier commands leaves
  obtain rfl : t = context := hearlier.eq_last
  have htells := tells_of_succession hearlier (tells_start hstart)
  refine ⟨htells.consistent, htells, ?_⟩
  rintro step rest rfl
  obtain ⟨hbefore, -⟩ := Succession.cons_iff.1 hlater
  have hleave : (done step).state = s.leave (earlier ++ [step]) := by simp [leave]
  refine ⟨hbefore, hleave, ?_, fun hnothing => ?_, fun hname => ?_, ?_⟩
  · rw [← hbefore]
    exact history_call step.before step.segment
  · have hafter := tells_call (hbefore ▸ htells) step.segment
    rw [show step.before.deliveries step.segment = [] from hnothing, List.append_nil] at hafter
    exact htells.memory_eq hafter
  · rw [converted, deliveries, turns, job?, if_neg hname, List.filterMap_nil]
  · exact fun turn _ hfailed => turn.memory_after_of_failed hfailed

/-- A session without a settings file on a disk with one document: the first command converts it,
and the second one converts nothing. -/
theorem history_tells_of_conversions_paragraph :
    let file : Configuration.File := ⟨"settings.json", none, ⟨990, [], .closes⟩⟩
    let disk := (fresh [("a.html", "<p>x</p>")]).disk
    let s := (ofConfig file (.object []) disk).1
    let steps := stepsOf s ["convert run a.html".toList, "help".toList]
    start file disk = .ok (s, [Configuration.File.missing "settings.json"]) ∧
      steps = steps.take 1 ++ steps.drop 1 ∧
      (s.leave (steps.take 1)).history.length = 1 ∧ (steps.drop 1).flatMap converted = [] ∧
      (s.leave (steps.take 1)).Consistent := by
  intro file disk s steps
  have hstart : start file disk = .ok (s, [Configuration.File.missing "settings.json"]) := rfl
  have hsteps : steps = steps.take 1 ++ steps.drop 1 := (List.take_append_drop 1 steps).symm
  refine ⟨hstart, hsteps, by decide +kernel, ?_, (history_tells_of_conversions hstart _ hsteps).1⟩
  exact List.eq_nil_of_length_eq_zero (by decide +kernel)

/-- A command that fails, since there is no second document, has added the record of the first. -/
theorem failing_command_adds_record :
    let file : Configuration.File := ⟨"settings.json", none, ⟨990, [], .closes⟩⟩
    let disk := (fresh [("b.html", "<p>x</p>")]).disk
    let s := (ofConfig file (.object []) disk).1
    start file disk = .ok (s, [Configuration.File.missing "settings.json"]) ∧
      ∃ step ∈ stepsOf s ["convert run b.html a.html".toList],
        (done step).code = 1 ∧ step.before.history = [] ∧ (done step).state.history ≠ [] :=
  ⟨rfl, by decide +kernel⟩

/-- The session that a shell leaves agrees with itself, too. -/
theorem consistent_shell {file : Configuration.File} {disk : Disk} {entries : List Log.Entry}
    (hstart : start file disk = .ok (s, entries)) (inputs : List Input) :
    (shell s inputs).session.Consistent := by
  obtain ⟨lines, hlines, -⟩ := exists_lines_interact s inputs
  have htells := tells_of_succession (succession_stepsOf s lines) (tells_start hstart)
  rw [← hlines] at htells
  exact htells.consistent

end Componentry.Session
