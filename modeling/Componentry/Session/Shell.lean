import Componentry.Session.Commands

/-!
# Shell

The shell runs one line of commands after another on a session, until a line asks to quit, the user
interrupts it or the input ends.
-/

namespace Componentry.Session

open CommandLine

/-- The commands by their names. -/
def handlers (name : Text) : Option (Handler Session) :=
  (Command.ofName? name).map Command.handler

/-- A line of commands is run. -/
def runLine (line : Text) (s : Session) : Run Session := CommandLine.run handlers (segments line) s

/-- What the shell gets when it asks for a line. -/
inductive Input
  /-- A line. -/
  | line (text : Text)
  /-- The user interrupts the shell. -/
  | interrupt
  deriving DecidableEq, Repr

/-- What the shell asks for a line with. -/
def prompt : Text := "Manifest>> "

/-- What the shell says first. -/
def welcome : Text := "Welcome to Manifest Studio Shell 1.0 (type 'help' for commands)"

/-- What the shell says last. -/
def farewell : Text := "Bye!"

/-- What happened in a shell. -/
structure Transcript where
  /-- What became visible. -/
  outputs : List Output
  /-- The session after it. -/
  session : Session
  /-- How many times a line was asked for. -/
  prompts : Nat
  /-- How many inputs were not asked for. -/
  left : Nat

/-- Inputs are taken one after another; the end of the inputs ends the shell too. -/
def interact (s : Session) : List Input → Transcript
  | [] => ⟨[], s, 1, 0⟩
  | .interrupt :: inputs => ⟨[], s, 1, inputs.length⟩
  | .line text :: inputs =>
    let line := Text.trim text
    if line.isEmpty then
      let rest := interact s inputs
      { rest with prompts := rest.prompts + 1 }
    else
      let done := runLine line s
      if done.code = quitCode then ⟨done.outputs, done.state, 1, inputs.length⟩
      else
        let rest := interact done.state inputs
        { rest with outputs := done.outputs ++ rest.outputs, prompts := rest.prompts + 1 }

/-- A whole shell, from its welcome to its farewell. -/
def shell (s : Session) (inputs : List Input) : Transcript :=
  let inner := interact s inputs
  { inner with outputs := .say welcome :: inner.outputs ++ [.say farewell] }

/-- The exit code of the program after a line: a line that asks to quit is a success. -/
def programCode (code : Int) : Int := if code = quitCode then 0 else code

/-- The arguments of the program are run as one line. -/
def runArguments (arguments : List Text) (s : Session) : Run Session :=
  let done := runLine (joinWords arguments) s
  { done with code := programCode done.code }

/-- The program is run with its arguments: they are one line, or else a shell takes the inputs. -/
def program (arguments : List Text) (inputs : List Input) (s : Session) : Run Session :=
  if arguments.isEmpty then
    let t := shell s inputs
    ⟨0, t.session, t.outputs⟩
  else runArguments arguments s

end Componentry.Session
