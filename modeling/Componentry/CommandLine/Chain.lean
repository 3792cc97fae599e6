import Componentry.CommandLine.Segment
import Componentry.Json.Printer
import Componentry.Log
import Componentry.Numeral.Integer

/-!
# Running the commands of a line

The commands of a line are run one after another. The operator before a command tells whether it is
run, given the exit code of the last command that was; a command that asks to quit ends the line.
-/

namespace Componentry

/-- Something that becomes visible while commands run. -/
inductive Output
  /-- A text is printed. -/
  | print (text : Text)
  /-- A record is logged. -/
  | log (entry : Log.Entry)
  deriving DecidableEq, Repr

namespace Output

/-- A line is printed. -/
def say (line : Text) : Output := .print (line ++ "\n")

/-- The printed text of some output. -/
def printed (outputs : List Output) : Text :=
  outputs.flatMap fun
    | .print text => text
    | .log _ => []

/-- The records of some output. -/
def logged (outputs : List Output) : List Log.Entry :=
  outputs.filterMap fun
    | .print _ => none
    | .log entry => some entry

end Output

namespace CommandLine

/-- What a command answers. -/
inductive Answer
  /-- A value, which stands for an exit code. -/
  | value (value : Json)
  /-- An error that ended the command, in words. -/
  | failure (message : Text)
  deriving Inhabited

/-- What a command leads to. -/
structure Outcome (σ : Type) where
  /-- What it answers. -/
  answer : Answer
  /-- The state after it. -/
  state : σ
  /-- What it made visible. -/
  outputs : List Output

/-- A command, as a function of its arguments and the state. -/
abbrev Handler (σ : Type) := List Text → σ → Outcome σ

/-- The exit code of a command that asks to quit. -/
def quitCode : Int := 130

/-- The exit code of a command that is not known. -/
def unknownCode : Int := 127

/-- The exit code of a command that an error ended. -/
def failureCode : Int := 1

/-- The exit code that a value stands for: an integer, the integer part of a fraction, one or zero
for a truth value, or what a text writes. -/
def exitCode : Json → Except Text Int
  | .int n => .ok n
  | .bool true => .ok 1
  | .bool false => .ok 0
  | .float x =>
    match x.truncate? with
    | some n => .ok n
    | none =>
      if x = .nan then .error "cannot convert float NaN to integer"
      else .error "cannot convert float infinity to integer"
  | .string t =>
    match Numeral.readInteger t with
    | .ok n => .ok n
    | .error error => .error error.message
  | value =>
    .error ("int() argument must be a string, a bytes-like object or a real number, not '" ++
      value.typeName ++ "'")

/-- The exit code of an answer, or the error that stands in its place. -/
def Answer.code : Answer → Except Text Int
  | .value v => exitCode v
  | .failure message => .error message

/-- What is made visible of an error that ended the command `name`. -/
def failureOutputs (name message : Text) : List Output :=
  [.log ⟨.error, .chain, "Command '" ++ name ++ "' failed: " ++ message⟩,
    .say ("❌ Error in '" ++ name ++ "': " ++ message)]

/-- What a run of commands leads to. -/
structure Run (σ : Type) where
  /-- The exit code. -/
  code : Int
  /-- The state after it. -/
  state : σ
  /-- What it made visible. -/
  outputs : List Output

/-- A command is run. -/
def call {σ : Type} (handlers : Text → Option (Handler σ)) (segment : Segment) (state : σ) :
    Run σ :=
  match handlers segment.name with
  | none => ⟨unknownCode, state, [.say ("command not found: " ++ segment.name)]⟩
  | some handler =>
    let outcome := handler segment.arguments state
    match outcome.answer.code with
    | .ok code => ⟨code, outcome.state, outcome.outputs⟩
    | .error message =>
      ⟨failureCode, outcome.state, outcome.outputs ++ failureOutputs segment.name message⟩

/-- A command after the operator `operator?` is left out, given the last exit code. -/
def isSkipped (operator? : Option Operator) (last : Int) : Bool :=
  match operator? with
  | some .onSuccess => last ≠ 0
  | some .onFailure => last = 0
  | _ => false

/-- Segments are run in order, where `last` is the exit code of the command before them. -/
def runFrom {σ : Type} (handlers : Text → Option (Handler σ)) (last : Int) (state : σ) :
    List Segment → Run σ
  | [] => ⟨last, state, []⟩
  | segment :: segments =>
    if isSkipped segment.operator? last then runFrom handlers last state segments
    else
      let first := call handlers segment state
      if first.code = quitCode then first
      else
        let rest := runFrom handlers first.code first.state segments
        ⟨rest.code, rest.state, first.outputs ++ rest.outputs⟩

/-- Segments are run in order. -/
def run {σ : Type} (handlers : Text → Option (Handler σ)) (segments : List Segment) (state : σ) :
    Run σ := runFrom handlers 0 state segments

end CommandLine

end Componentry
