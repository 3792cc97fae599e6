import Componentry.Proofs.Session.Answer

/-!
# Shells

A shell takes its inputs one after another, up to the first one that ends it: an interruption, a
line that asks to quit, or the end of the inputs. Until then it runs every line that is not blank,
once and in order, each on the session that the lines before it have left. No line ends the shell in
another way, since a command that an error has ended is reported and counts as a failure.

* `Input.Ends`, `EndsAfter`: where a shell ends;
* `interact_eq`: what a shell does with its inputs;
* `program_runs_until_end`: the program without arguments, from its welcome to its farewell.
-/

namespace Componentry.Session

open CommandLine

variable {s : Session}

/-! ### Lines one after another -/

theorem runLines_append (s : Session) (first second : List Text) :
    s.runLines (first ++ second) = (s.runLines first).runLines second := by
  induction first generalizing s with
  | nil => rfl
  | cons line first ih => exact ih _

/-- What the commands make visible that lines run, in order. -/
def visible (s : Session) (lines : List Text) : List Output :=
  (stepsOf s lines).flatMap fun step => (done step).outputs

theorem outputs_runLine (line : Text) (s : Session) :
    (runLine line s).outputs = s.visible [line] := by
  rw [visible, stepsOf, stepsOf, List.append_nil]
  exact outputs_runFrom 0 s (segments line)

theorem visible_cons (s : Session) (line : Text) (lines : List Text) :
    s.visible (line :: lines) =
      (runLine line s).outputs ++ (runLine line s).state.visible lines := by
  rw [outputs_runLine, visible, visible, visible, stepsOf, stepsOf, stepsOf, List.append_nil,
    List.flatMap_append]

/-! ### Inputs -/

/-- The command line that an input gives, unless nothing stands on it. -/
def Input.command? (input : Input) : Option Text := input.line?.filter (!·.isEmpty)

/-- The command lines that inputs give, in order. -/
def spoken (inputs : List Input) : List Text := inputs.filterMap Input.command?

theorem spoken_cons (input : Input) (inputs : List Input) :
    spoken (input :: inputs) = input.command?.toList ++ spoken inputs := by
  rw [spoken, List.filterMap_cons]
  cases input.command? <;> rfl

theorem command?_of_isEmpty {text : Text} (h : (Text.trim text).isEmpty) :
    (Input.line text).command? = none := by
  simpa [Input.command?, Input.line?] using h

theorem command?_of_not_isEmpty {text : Text} (h : ¬ (Text.trim text).isEmpty) :
    (Input.line text).command? = some (Text.trim text) := by
  simpa [Input.command?, Input.line?] using h

/-- An input ends a shell in a session if it interrupts the shell, or if its line asks to quit. -/
def Input.Ends (s : Session) (input : Input) : Prop :=
  input = .interrupt ∨ ∃ line, input.command? = some line ∧ (runLine line s).code = quitCode

/-- A shell goes on after the inputs `taken`. The first of the inputs `rest` ends it, and so does
the end of the inputs if there are no more of them. -/
structure EndsAfter (s : Session) (taken rest : List Input) : Prop where
  /-- None of the inputs that are taken ends the shell. -/
  goes : ∀ earlier input later, taken = earlier ++ input :: later →
    ¬ input.Ends (s.runLines (spoken earlier))
  /-- The next one does. -/
  ends : ∀ input ∈ rest.head?, input.Ends (s.runLines (spoken taken))

theorem endsAfter_nil {rest : List Input} (h : ∀ input ∈ rest.head?, input.Ends s) :
    s.EndsAfter [] rest :=
  ⟨fun _ _ _ heq => absurd heq.symm (by simp), h⟩

theorem EndsAfter.cons {input : Input} {taken rest : List Input} (hgoes : ¬ input.Ends s)
    (h : (s.runLines input.command?.toList).EndsAfter taken rest) :
    s.EndsAfter (input :: taken) rest := by
  constructor
  · intro earlier next later heq
    cases earlier with
    | nil =>
      obtain ⟨rfl, -⟩ := List.cons.inj heq
      exact hgoes
    | cons first earlier =>
      obtain ⟨rfl, htaken⟩ := List.cons.inj heq
      rw [spoken_cons, runLines_append]
      exact h.goes earlier next later htaken
  · intro next hnext
    rw [spoken_cons, runLines_append]
    exact h.ends next hnext

/-! ### Shells -/

/-- A shell takes inputs until one ends it, and runs the lines of these. -/
theorem interact_eq (s : Session) (inputs : List Input) :
    ∃ taken rest, inputs = taken ++ rest ∧ s.EndsAfter taken rest ∧
      interact s inputs =
        ⟨s.visible (spoken (taken ++ rest.head?.toList)),
          s.runLines (spoken (taken ++ rest.head?.toList)), taken.length + 1,
          rest.tail.length⟩ := by
  induction inputs generalizing s with
  | nil => exact ⟨[], [], rfl, endsAfter_nil nofun, rfl⟩
  | cons input inputs ih =>
    cases input with
    | interrupt =>
      refine ⟨[], .interrupt :: inputs, rfl, endsAfter_nil ?_, rfl⟩
      intro next hnext
      exact .inl (Option.some.inj hnext).symm
    | line text =>
      rw [interact]
      dsimp only
      split_ifs with hblank hquit
      · -- a blank line is taken, and nothing is run
        have hcommand := command?_of_isEmpty hblank
        obtain ⟨taken, rest, rfl, hends, hinner⟩ := ih s
        refine ⟨.line text :: taken, rest, rfl, EndsAfter.cons ?_ ?_, ?_⟩
        · rintro (h | ⟨line, hline, -⟩)
          · cases h
          · rw [hcommand] at hline
            cases hline
        · rwa [hcommand]
        · rw [hinner, List.cons_append, spoken_cons, hcommand]
          rfl
      · have hcommand := command?_of_not_isEmpty hblank
        refine ⟨[], .line text :: inputs, rfl, endsAfter_nil ?_, ?_⟩
        · intro next hnext
          obtain rfl := Option.some.inj hnext
          exact .inr ⟨_, hcommand, hquit⟩
        · rw [List.nil_append, List.head?_cons, Option.toList_some, spoken_cons, hcommand,
            outputs_runLine]
          rfl
      · -- the session goes on with what the line has left
        have hcommand := command?_of_not_isEmpty hblank
        obtain ⟨taken, rest, rfl, hends, hinner⟩ := ih (runLine (Text.trim text) s).state
        refine ⟨.line text :: taken, rest, rfl, EndsAfter.cons ?_ ?_, ?_⟩
        · rintro (h | ⟨line, hline, hcode⟩)
          · cases h
          · rw [hcommand, Option.some.injEq] at hline
            exact hquit (hline ▸ hcode)
        · rwa [hcommand]
        · rw [hinner, List.cons_append, spoken_cons, hcommand, Option.toList_some,
            List.singleton_append, visible_cons]
          rfl

/-- Lines do not say farewell. -/
theorem farewell_not_mem_visible (s : Session) (lines : List Text) :
    Output.say farewell ∉ s.visible lines := by
  intro hmem
  obtain ⟨step, -, hstep⟩ := List.mem_flatMap.1 hmem
  exact farewell_not_mem_call step.before step.segment hstep

/-- Without arguments the program succeeds, whatever it is given and whatever the files hold. It
takes the inputs up to the first one that ends it, runs the lines of these once and in order, and
leaves the other inputs alone. It says farewell once, at the end. No line and no command of a line
can do otherwise: a line with an open quotation mark is cut at its blanks, an error that ends a
command is reported, and only the command to quit asks to quit. -/
theorem program_runs_until_end (s : Session) (inputs : List Input) :
    ∃ taken rest, inputs = taken ++ rest ∧ s.EndsAfter taken rest ∧
      let lines := spoken (taken ++ rest.head?.toList)
      let t := shell s inputs
      program [] inputs s = ⟨0, s.runLines lines, t.outputs⟩ ∧
        t.outputs = .say welcome :: s.visible lines ++ [.say farewell] ∧
        t.outputs.count (.say farewell) = 1 ∧
        t.prompts = taken.length + 1 ∧ t.left = rest.tail.length ∧
        (∀ line ∈ lines, words? (Text.trim line) = none →
          segments line = segmentsFrom none [] (Text.words (Text.trim line))) ∧
        ∀ step ∈ stepsOf s lines,
          ((done step).code = quitCode ↔ step.segment.name = "quit".toList) ∧
          ∀ command message, handlers step.segment.name = some command →
            (command step.segment.arguments step.before).answer.code = .error message →
            (done step).code = failureCode ∧
              (done step).outputs = (command step.segment.arguments step.before).outputs ++
                failureOutputs step.segment.name message := by
  obtain ⟨taken, rest, hinputs, hends, hinner⟩ := interact_eq s inputs
  refine ⟨taken, rest, hinputs, hends, ?_⟩
  intro lines t
  have houtputs : t.outputs = .say welcome :: s.visible lines ++ [.say farewell] := by
    simp only [t, shell, hinner, lines]
  have hsession : t.session = s.runLines lines := by
    simp only [t, shell, hinner, lines]
  refine ⟨?_, houtputs, ?_, ?_, ?_, fun line _ hopen => ?_, fun step _ => ⟨?_, ?_⟩⟩
  · rw [← hsession]
    rfl
  · have hwelcome : Output.say welcome ≠ .say farewell := by decide
    rw [houtputs, List.cons_append, List.count_cons_of_ne hwelcome, List.count_append,
      List.count_eq_zero_of_not_mem (farewell_not_mem_visible s lines), List.count_singleton_self]
  · simp only [t, shell, hinner]
  · simp only [t, shell, hinner]
  · rw [segments, wordsOf, hopen]
    rfl
  · exact code_call_eq_quitCode_iff
  · exact fun command message hhandler herror => reports_of_error hhandler herror

end Componentry.Session
