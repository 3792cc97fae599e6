import Componentry.CommandLine.Chain
import Componentry.Proofs.Succession

/-!
# Traces of lines

The commands that a line runs, each with the state that it is given. They follow one another: each
starts in the state that the one before it has left, and the last one leaves the state after the
line.

* `stepsFrom`: the commands that segments run;
* `succession_stepsFrom`: how they lead from the state before the segments to the state after them;
* `outputs_runFrom`: what they make visible.
-/

namespace Componentry.CommandLine

variable {σ : Type}

/-- A command that is run. -/
structure Step (σ : Type) where
  /-- The command with its arguments. -/
  segment : Segment
  /-- The state that it is given. -/
  before : σ

/-- What a command that is run leads to. -/
def Step.run (handlers : Text → Option (Handler σ)) (step : Step σ) : Run σ :=
  call handlers step.segment step.before

section

variable (handlers : Text → Option (Handler σ))

/-- The commands that are run when segments are run in order, where `last` is the exit code of the
command before them. -/
def stepsFrom (last : Int) (state : σ) : List Segment → List (Step σ)
  | [] => []
  | segment :: segments =>
    if isSkipped segment.operator? last then stepsFrom last state segments
    else
      let first : Step σ := ⟨segment, state⟩
      let done := first.run handlers
      if done.code = quitCode then [first] else first :: stepsFrom done.code done.state segments

variable {handlers}

/-- The commands that segments run lead from the state before the segments to the state after
them. -/
theorem succession_stepsFrom (last : Int) (state : σ) (segments : List Segment) :
    Succession Step.before (fun step => (step.run handlers).state) state
      (stepsFrom handlers last state segments) (runFrom handlers last state segments).state := by
  induction segments generalizing last state with
  | nil => exact .nil state
  | cons segment segments ih =>
    rw [stepsFrom, runFrom]
    split
    · exact ih last state
    · dsimp only
      rw [Step.run]
      split
      · exact .cons rfl (.nil _)
      · exact .cons rfl (ih _ _)

/-- What becomes visible when segments are run is what the commands make visible, in order. -/
theorem outputs_runFrom (last : Int) (state : σ) (segments : List Segment) :
    (runFrom handlers last state segments).outputs =
      (stepsFrom handlers last state segments).flatMap fun step => (step.run handlers).outputs := by
  induction segments generalizing last state with
  | nil => rfl
  | cons segment segments ih =>
    rw [stepsFrom, runFrom]
    split
    · exact ih last state
    · dsimp only
      rw [Step.run]
      split
      · rw [List.flatMap_singleton, Step.run]
      · rw [List.flatMap_cons, ← ih, Step.run]

end

end Componentry.CommandLine
