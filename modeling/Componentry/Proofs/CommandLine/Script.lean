import Componentry.CommandLine.Chain

/-!
# Scripts

The segments of a line as a script: lists of commands that are run one after another, where each
command of a list but its first one depends on how all of the list before it has ended. A script is
evaluated along this structure, and an evaluation tells which handlers it has called. Running the
segments one by one, with the last exit code in hand, does the same.

* `runFrom_cons`: a segment that is not left out is evaluated before those after it;
* `toRun_evaluateFrom_listsFrom`: running segments evaluates the lists that they make;
* `run_eq_evaluate`: the same for a whole line, with the calls and with the end that a quit brings.
-/

namespace Componentry.CommandLine

/-! ### Scripts -/

/-- A list of commands, each of which but the first depends on how all before it has ended. -/
inductive AndOr
  /-- A command that depends on nothing. -/
  | command (name : Text) (arguments : List Text)
  /-- A command that is run after a success of `before`. -/
  | onSuccess (before : AndOr) (name : Text) (arguments : List Text)
  /-- A command that is run after a failure of `before`. -/
  | onFailure (before : AndOr) (name : Text) (arguments : List Text)

/-- Lists that are run in order, however each of them ends. -/
abbrev Script := List AndOr

/-- The lists that segments make, the first of which has begun with `current`. The operator that
runs a command in any case starts a new list, and so does a missing one. -/
def listsFrom (current : AndOr) : List Segment → Script
  | [] => [current]
  | segment :: segments =>
    match segment.operator? with
    | some .onSuccess => listsFrom (.onSuccess current segment.name segment.arguments) segments
    | some .onFailure => listsFrom (.onFailure current segment.name segment.arguments) segments
    | _ => current :: listsFrom (.command segment.name segment.arguments) segments

/-- The script that segments make. -/
def Script.ofSegments : List Segment → Script
  | [] => []
  | first :: segments => listsFrom (.command first.name first.arguments) segments

/-! ### Evaluation -/

/-- How an evaluation ends. -/
inductive Ending
  /-- With an exit code. -/
  | code (code : Int)
  /-- With a command that asks to quit. -/
  | quit

/-- A call of a handler. -/
structure Call (σ : Type) where
  /-- The name of its command. -/
  name : Text
  /-- The arguments that it is given. -/
  arguments : List Text
  /-- The state that it is given. -/
  state : σ

/-- What an evaluation leads to. -/
structure Evaluation (σ : Type) where
  /-- How it ends. -/
  ending : Ending
  /-- The state after it. -/
  state : σ
  /-- The calls that are made, in order. -/
  calls : List (Call σ)
  /-- What becomes visible. -/
  outputs : List Output

variable {σ : Type}

namespace Evaluation

/-- Nothing is evaluated, and the last exit code stays. -/
def skip (last : Int) (state : σ) : Evaluation σ := ⟨.code last, state, [], []⟩

/-- An evaluation that goes on with `next`, unless a command asks to quit. -/
def andThen (e : Evaluation σ) (next : Int → σ → Evaluation σ) : Evaluation σ :=
  match e.ending with
  | .quit => e
  | .code last =>
    let rest := next last e.state
    ⟨rest.ending, rest.state, e.calls ++ rest.calls, e.outputs ++ rest.outputs⟩

/-- An evaluation that goes on with the run `next`, unless a command asks to quit. -/
def thenRun (e : Evaluation σ) (next : Int → σ → Run σ) : Run σ :=
  match e.ending with
  | .quit => ⟨130, e.state, e.outputs⟩
  | .code last =>
    let rest := next last e.state
    ⟨rest.code, rest.state, e.outputs ++ rest.outputs⟩

/-- An evaluation as a run; a quit has an exit code of its own. -/
def toRun (e : Evaluation σ) : Run σ :=
  match e.ending with
  | .quit => ⟨130, e.state, e.outputs⟩
  | .code last => ⟨last, e.state, e.outputs⟩

end Evaluation

section

variable (handlers : Text → Option (Handler σ))

/-- A command is evaluated. An unknown one has the exit code 127, and one that an error ends, or
whose answer stands for no exit code, has 1. -/
def evaluateCommand (name : Text) (arguments : List Text) (state : σ) : Evaluation σ :=
  match handlers name with
  | none => ⟨.code 127, state, [], [.say ("command not found: " ++ name)]⟩
  | some handler =>
    let outcome := handler arguments state
    match outcome.answer.code with
    | .ok code =>
      ⟨if code = 130 then .quit else .code code, outcome.state, [⟨name, arguments, state⟩],
        outcome.outputs⟩
    | .error message =>
      ⟨.code 1, outcome.state, [⟨name, arguments, state⟩],
        outcome.outputs ++ failureOutputs name message⟩

/-- A list of commands is evaluated. -/
def AndOr.evaluate : AndOr → σ → Evaluation σ
  | .command name arguments, state => evaluateCommand handlers name arguments state
  | .onSuccess before name arguments, state =>
    (before.evaluate state).andThen fun last state =>
      if last = 0 then evaluateCommand handlers name arguments state else .skip last state
  | .onFailure before name arguments, state =>
    (before.evaluate state).andThen fun last state =>
      if last = 0 then .skip last state else evaluateCommand handlers name arguments state

/-- Lists are evaluated in order, where `last` is the exit code of the one before them. -/
def evaluateFrom (last : Int) : Script → σ → Evaluation σ
  | [], state => .skip last state
  | list :: lists, state =>
    (list.evaluate handlers state).andThen fun last state => evaluateFrom last lists state

/-- A script is evaluated. -/
def Script.evaluate (script : Script) (state : σ) : Evaluation σ :=
  evaluateFrom handlers 0 script state

/-! ### Running segments -/

theorem Evaluation.thenRun_skip (last : Int) (state : σ) (next : Int → σ → Run σ) :
    (skip last state).thenRun next = next last state := rfl

theorem Evaluation.thenRun_andThen (e : Evaluation σ) (f : Int → σ → Evaluation σ)
    (next : Int → σ → Run σ) :
    (e.andThen f).thenRun next = e.thenRun fun last state => (f last state).thenRun next := by
  cases hending : e.ending with
  | quit => simp [andThen, thenRun, hending]
  | code last =>
    cases hrest : (f last e.state).ending <;>
      simp [andThen, thenRun, hending, hrest, List.append_assoc]

theorem Evaluation.toRun_eq_thenRun (e : Evaluation σ) :
    e.toRun = e.thenRun fun last state => ⟨last, state, []⟩ := by
  cases hending : e.ending <;> simp [toRun, thenRun, hending]

theorem Evaluation.state_toRun (e : Evaluation σ) : e.toRun.state = e.state := by
  rw [toRun]
  split <;> rfl

/-- A segment that is not left out is evaluated before those after it. -/
theorem runFrom_cons (last : Int) (state : σ) (segment : Segment) (segments : List Segment) :
    runFrom handlers last state (segment :: segments) =
      if isSkipped segment.operator? last then runFrom handlers last state segments
      else (evaluateCommand handlers segment.name segment.arguments state).thenRun
        fun last state => runFrom handlers last state segments := by
  rw [runFrom]
  split
  · rfl
  · rw [call, evaluateCommand]
    cases hhandler : handlers segment.name with
    | none => rfl
    | some handler =>
      cases hcode : (handler segment.arguments state).answer.code with
      | error message =>
        simp [hcode, Evaluation.thenRun, failureCode, quitCode]
      | ok code =>
        by_cases hquit : code = 130 <;> simp [hcode, hquit, Evaluation.thenRun, quitCode]

/-- Running segments, once `current` has been evaluated, evaluates the lists that begin with it. -/
theorem toRun_evaluateFrom_listsFrom (current : AndOr) (segments : List Segment) (last : Int)
    (state : σ) :
    (evaluateFrom handlers last (listsFrom current segments) state).toRun =
      (current.evaluate handlers state).thenRun
        fun last state => runFrom handlers last state segments := by
  -- `current` grows by the segments that depend on it, so the induction is for every `current`
  induction segments generalizing current last state with
  | nil =>
    rw [listsFrom, evaluateFrom, Evaluation.toRun_eq_thenRun, Evaluation.thenRun_andThen]
    rfl
  | cons segment segments ih =>
    rw [listsFrom]
    split
    next hoperator =>
      rw [ih, AndOr.evaluate, Evaluation.thenRun_andThen]
      congr
      funext last state
      rw [runFrom_cons, hoperator]
      by_cases hlast : last = 0 <;> simp [isSkipped, hlast, Evaluation.thenRun_skip]
    next hoperator =>
      rw [ih, AndOr.evaluate, Evaluation.thenRun_andThen]
      congr
      funext last state
      rw [runFrom_cons, hoperator]
      by_cases hlast : last = 0 <;> simp [isSkipped, hlast, Evaluation.thenRun_skip]
    next hsuccess hfailure =>
      -- the segment starts a list of its own
      rw [evaluateFrom, Evaluation.toRun_eq_thenRun, Evaluation.thenRun_andThen]
      congr
      funext last state
      have hnone : isSkipped segment.operator? last = false := by
        rw [isSkipped.eq_def]
        split
        next heq => exact absurd heq hsuccess
        next heq => exact absurd heq hfailure
        next => rfl
      rw [← Evaluation.toRun_eq_thenRun, ih, runFrom_cons, hnone]
      rfl

/-- Running the segments of a line evaluates the script that they make. -/
theorem run_eq_toRun {segments : List Segment} (state : σ)
    (h : ∀ first ∈ segments.head?, first.operator? = none) :
    run handlers segments state =
      ((Script.ofSegments segments).evaluate handlers state).toRun := by
  rw [run, Script.evaluate]
  cases segments with
  | nil => rfl
  | cons first segments =>
    -- without an operator the first segment is not left out, and begins the first list
    have hnone : isSkipped first.operator? 0 = false := by rw [h first rfl]; rfl
    rw [Script.ofSegments, toRun_evaluateFrom_listsFrom, runFrom_cons, hnone]
    rfl

/-! ### Calls -/

/-- Handlers that keep the calls that are made of them beside the state. -/
def recorded (name : Text) : Option (Handler (σ × List (Call σ))) :=
  (handlers name).map fun handler arguments (state, calls) =>
    let outcome := handler arguments state
    ⟨outcome.answer, (outcome.state, calls ++ [⟨name, arguments, state⟩]), outcome.outputs⟩

/-- After the calls `calls`, an evaluation by handlers that record them does what the evaluation
`e` by the handlers themselves does, and has recorded its calls. -/
structure Evaluation.Records (calls : List (Call σ)) (recording : Evaluation (σ × List (Call σ)))
    (e : Evaluation σ) : Prop where
  /-- They end the same way. -/
  ending : recording.ending = e.ending
  /-- The calls have been added to those before them. -/
  state : recording.state = (e.state, calls ++ e.calls)
  /-- The same becomes visible. -/
  outputs : recording.outputs = e.outputs

variable {handlers}

theorem Evaluation.records_skip (last : Int) (state : σ) (calls : List (Call σ)) :
    Records calls (skip last (state, calls)) (skip last state) :=
  ⟨rfl, by simp [skip], rfl⟩

theorem Evaluation.Records.andThen {calls : List (Call σ)}
    {recording : Evaluation (σ × List (Call σ))} {e : Evaluation σ}
    {f : Int → σ × List (Call σ) → Evaluation (σ × List (Call σ))} {g : Int → σ → Evaluation σ}
    (h : Records calls recording e)
    (hnext : ∀ last state calls, Records calls (f last (state, calls)) (g last state)) :
    Records calls (recording.andThen f) (e.andThen g) := by
  cases hending : e.ending with
  | quit =>
    have hsame := h.ending.trans hending
    simpa [Evaluation.andThen, hending, hsame] using h
  | code last =>
    have hsame := h.ending.trans hending
    -- what is recorded next starts from the state and the calls that are recorded here
    obtain ⟨hend, hstate, houtputs⟩ := hnext last e.state (calls ++ e.calls)
    rw [← h.state] at hend hstate houtputs
    refine ⟨?_, ?_, ?_⟩
    · simpa [Evaluation.andThen, hending, hsame] using hend
    · simpa [Evaluation.andThen, hending, hsame, List.append_assoc] using hstate
    · simp [Evaluation.andThen, hending, hsame, h.outputs, houtputs]

theorem records_evaluateCommand (name : Text) (arguments : List Text) (state : σ)
    (calls : List (Call σ)) :
    (evaluateCommand (recorded handlers) name arguments (state, calls)).Records calls
      (evaluateCommand handlers name arguments state) := by
  cases hhandler : handlers name with
  | none =>
    have hrecorded : recorded handlers name = none := by rw [recorded, hhandler]; rfl
    rw [evaluateCommand, evaluateCommand, hhandler, hrecorded]
    exact ⟨rfl, by simp, rfl⟩
  | some handler =>
    cases hcode : (handler arguments state).answer.code <;>
      exact ⟨by simp [evaluateCommand, recorded, hhandler, hcode],
        by simp [evaluateCommand, recorded, hhandler, hcode],
        by simp [evaluateCommand, recorded, hhandler, hcode]⟩

theorem AndOr.records_evaluate (list : AndOr) (state : σ) (calls : List (Call σ)) :
    (list.evaluate (recorded handlers) (state, calls)).Records calls
      (list.evaluate handlers state) := by
  induction list with
  | command name arguments => exact records_evaluateCommand name arguments state calls
  | onSuccess before name arguments ih =>
    refine ih.andThen fun last state calls => ?_
    split
    · exact records_evaluateCommand name arguments state calls
    · exact Evaluation.records_skip last state calls
  | onFailure before name arguments ih =>
    refine ih.andThen fun last state calls => ?_
    split
    · exact Evaluation.records_skip last state calls
    · exact records_evaluateCommand name arguments state calls

theorem records_evaluateFrom (last : Int) (script : Script) (state : σ)
    (calls : List (Call σ)) :
    (evaluateFrom (recorded handlers) last script (state, calls)).Records calls
      (evaluateFrom handlers last script state) := by
  induction script generalizing last state calls with
  | nil => exact Evaluation.records_skip last state calls
  | cons list lists ih => exact (list.records_evaluate state calls).andThen ih

/-! ### Quitting -/

variable (handlers) in
/-- A call asks to quit. -/
def Call.Quits (call : Call σ) : Prop :=
  ∃ handler, handlers call.name = some handler ∧
    (handler call.arguments call.state).answer.code = .ok 130

variable (handlers) in
/-- An evaluation ends with the first call that asks to quit, and has no exit code that looks like
one otherwise. -/
structure Evaluation.StopsAtQuit (e : Evaluation σ) : Prop where
  /-- With an exit code, no call has asked to quit. -/
  code : ∀ last, e.ending = .code last → last ≠ 130 ∧ ∀ call ∈ e.calls, ¬ call.Quits handlers
  /-- With a quit, the last call has asked for it, and none before it. -/
  quit : e.ending = .quit → ∃ before last, e.calls = before ++ [last] ∧ last.Quits handlers ∧
    ∀ call ∈ before, ¬ call.Quits handlers

theorem Evaluation.stopsAtQuit_skip {last : Int} (h : last ≠ 130) (state : σ) :
    StopsAtQuit handlers (skip last state) where
  code := fun _ heq => ⟨Ending.code.inj heq ▸ h, fun _ hcall => nomatch hcall⟩
  quit := fun heq => nomatch heq

theorem Evaluation.StopsAtQuit.andThen {e : Evaluation σ} {next : Int → σ → Evaluation σ}
    (h : StopsAtQuit handlers e)
    (hnext : ∀ last state, last ≠ 130 → StopsAtQuit handlers (next last state)) :
    StopsAtQuit handlers (e.andThen next) := by
  cases hending : e.ending with
  | quit => simpa [Evaluation.andThen, hending] using h
  | code last =>
    obtain ⟨hlast, hcalls⟩ := h.code last hending
    -- no call has asked to quit so far, so the first that does so is one of the rest
    have hrest := hnext last e.state hlast
    have hthen : e.andThen next = ⟨(next last e.state).ending, (next last e.state).state,
        e.calls ++ (next last e.state).calls, e.outputs ++ (next last e.state).outputs⟩ := by
      simp [Evaluation.andThen, hending]
    rw [hthen]
    refine ⟨fun code heq => ?_, fun heq => ?_⟩
    · obtain ⟨hcode, hothers⟩ := hrest.code code heq
      exact ⟨hcode, List.forall_mem_append.2 ⟨hcalls, hothers⟩⟩
    · obtain ⟨before, final, hsplit, hquits, hothers⟩ := hrest.quit heq
      exact ⟨e.calls ++ before, final, by rw [List.append_assoc, ← hsplit], hquits,
        List.forall_mem_append.2 ⟨hcalls, hothers⟩⟩

theorem stopsAtQuit_evaluateCommand (name : Text) (arguments : List Text) (state : σ) :
    (evaluateCommand handlers name arguments state).StopsAtQuit handlers := by
  cases hhandler : handlers name with
  | none =>
    rw [evaluateCommand, hhandler]
    exact ⟨fun last heq => ⟨Ending.code.inj heq ▸ by decide, fun _ hcall => nomatch hcall⟩,
      fun heq => nomatch heq⟩
  | some handler =>
    -- the one call asks to quit exactly if the answer of its handler is 130
    have hquits : ∀ {code}, (handler arguments state).answer.code = .ok code → code = 130 →
        (Call.mk name arguments state).Quits handlers := by
      rintro code hcode rfl
      exact ⟨handler, hhandler, hcode⟩
    have hstays : ∀ {answer}, (handler arguments state).answer.code = answer → answer ≠ .ok 130 →
        ¬ (Call.mk name arguments state).Quits handlers := by
      rintro answer hcode hne ⟨other, hother, hquit⟩
      rw [hhandler] at hother
      cases hother
      exact hne (hcode.symm.trans hquit)
    rw [evaluateCommand, hhandler]
    dsimp only
    cases hcode : (handler arguments state).answer.code with
    | error message =>
      exact ⟨fun last heq => ⟨Ending.code.inj heq ▸ by decide,
        List.forall_mem_singleton.2 (hstays hcode (nomatch ·))⟩, fun heq => nomatch heq⟩
    | ok code =>
      dsimp only
      split
      next hquit =>
        exact ⟨fun last heq => (nomatch heq),
          fun _ => ⟨[], _, rfl, hquits hcode hquit, List.forall_mem_nil _⟩⟩
      next hquit =>
        exact ⟨fun last heq => ⟨Ending.code.inj heq ▸ hquit, List.forall_mem_singleton.2
          (hstays hcode fun heq => hquit (Except.ok.inj heq))⟩, fun heq => nomatch heq⟩

theorem AndOr.stopsAtQuit_evaluate (list : AndOr) (state : σ) :
    (list.evaluate handlers state).StopsAtQuit handlers := by
  induction list with
  | command name arguments => exact stopsAtQuit_evaluateCommand name arguments state
  | onSuccess before name arguments ih =>
    refine ih.andThen fun last state hlast => ?_
    split
    · exact stopsAtQuit_evaluateCommand name arguments state
    · exact Evaluation.stopsAtQuit_skip hlast state
  | onFailure before name arguments ih =>
    refine ih.andThen fun last state hlast => ?_
    split
    · exact Evaluation.stopsAtQuit_skip hlast state
    · exact stopsAtQuit_evaluateCommand name arguments state

theorem stopsAtQuit_evaluateFrom {last : Int} (h : last ≠ 130) (script : Script) (state : σ) :
    (evaluateFrom handlers last script state).StopsAtQuit handlers := by
  induction script generalizing last state with
  | nil => exact Evaluation.stopsAtQuit_skip h state
  | cons list lists ih =>
    exact (list.stopsAtQuit_evaluate state).andThen fun last state hlast => ih hlast state

/-- Only a quit has the exit code of one, and nothing is called after it. -/
theorem Evaluation.StopsAtQuit.quits_last {e : Evaluation σ} (h : StopsAtQuit handlers e) :
    (e.toRun.code = 130 ↔ ∃ call ∈ e.calls, call.Quits handlers) ∧
      ∀ call ∈ e.calls.dropLast, ¬ call.Quits handlers := by
  cases hending : e.ending with
  | code last =>
    obtain ⟨hlast, hcalls⟩ := h.code last hending
    have hcode : e.toRun.code = last := by simp [toRun, hending]
    refine ⟨?_, fun call hcall => hcalls call (List.dropLast_subset _ hcall)⟩
    rw [hcode]
    exact ⟨fun heq => absurd heq hlast,
      fun ⟨call, hcall, hquits⟩ => absurd hquits (hcalls call hcall)⟩
  | quit =>
    obtain ⟨before, last, hsplit, hquits, hothers⟩ := h.quit hending
    have hcode : e.toRun.code = 130 := by simp [toRun, hending]
    rw [hcode, hsplit, List.dropLast_concat]
    exact ⟨iff_of_true rfl ⟨last, List.mem_concat_self, hquits⟩, hothers⟩

/-! ### Whole lines -/

/-- Running segments, the first of which no operator precedes, evaluates the script that they make:
the same calls are made on the same states in the same order, with the same exit code and the same
state after them. The exit code is that of a quit only if a call has asked for it, and nothing is
called after that. -/
theorem run_eq_evaluate (handlers : Text → Option (Handler σ)) {segments : List Segment}
    (state : σ) (h : ∀ first ∈ segments.head?, first.operator? = none) :
    let e := (Script.ofSegments segments).evaluate handlers state
    run handlers segments state = e.toRun ∧
      (run (recorded handlers) segments (state, [])).state = (e.state, e.calls) ∧
      ((run handlers segments state).code = 130 ↔ ∃ call ∈ e.calls, call.Quits handlers) ∧
      ∀ call ∈ e.calls.dropLast, ¬ call.Quits handlers := by
  intro e
  have hrun : run handlers segments state = e.toRun := run_eq_toRun handlers state h
  have hrecords : Evaluation.Records []
      ((Script.ofSegments segments).evaluate (recorded handlers) (state, [])) e :=
    records_evaluateFrom 0 (Script.ofSegments segments) state []
  have hstops : e.StopsAtQuit handlers := stopsAtQuit_evaluateFrom (by decide) _ state
  refine ⟨hrun, ?_, ?_, hstops.quits_last.2⟩
  · rw [run_eq_toRun (recorded handlers) (state, []) h, Evaluation.state_toRun]
    exact hrecords.state
  · rw [hrun]
    exact hstops.quits_last.1

/-- Handlers that count their calls: one succeeds, one fails with an error, one asks to quit by a
text. -/
def counters (name : Text) : Option (Handler Nat) :=
  if name = "pass".toList then some fun _ n => ⟨.value (.int 0), n + 1, []⟩
  else if name = "fail".toList then some fun _ n => ⟨.failure [], n + 1, []⟩
  else if name = "quit".toList then some fun _ n => ⟨.value (.string "130".toList), n + 1, []⟩
  else none

/-- An unknown command, the command that is run in its place, one that is left out, and a quit
before the last one. -/
theorem run_eq_evaluate_quit :
    let segments : List Segment :=
      [⟨"none".toList, [], none⟩, ⟨"pass".toList, ["a".toList], some .onFailure⟩,
        ⟨"fail".toList, [], some .onFailure⟩, ⟨"quit".toList, [], some .always⟩,
        ⟨"pass".toList, [], some .always⟩]
    (∀ first ∈ segments.head?, first.operator? = none) ∧
      run counters segments 0 = ((Script.ofSegments segments).evaluate counters 0).toRun ∧
      (run counters segments 0).code = 130 ∧ (run counters segments 0).state = 2 := by
  intro segments
  exact ⟨by decide, (run_eq_evaluate counters 0 (by decide)).1, by decide +kernel,
    by decide +kernel⟩

end

end Componentry.CommandLine
