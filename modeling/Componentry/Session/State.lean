import Componentry.Component.Conversion
import Componentry.Configuration.File
import Componentry.Disk.Basic

/-!
# Sessions

What is kept from one command to the next: the configuration, the theme, the conversions so far, a
few variables, and the disk that the commands work on.
-/

namespace Componentry

/-- A conversion of a file. -/
structure Record where
  /-- The file. -/
  source : Text
  /-- The name of the component. -/
  component : Text
  /-- The file that the component was written to, unless it was printed. -/
  output? : Option Text
  /-- The number of units. -/
  unitCount : Nat
  /-- The number of state fields. -/
  fieldCount : Nat
  deriving DecidableEq, Repr, Inhabited

/-- What stands for a file where a component was printed. -/
def printedTarget : Text := "<stdout>"

/-- A record on a line. -/
def Record.summary (r : Record) : Text :=
  r.component ++ ": " ++ Text.ofNat r.unitCount ++ " units, " ++ Text.ofNat r.fieldCount ++
    " state fields -> " ++ r.output?.getD printedTarget

/-- A session. -/
structure Session where
  /-- The settings file that the configuration starts from. -/
  file : Configuration.File
  /-- The configuration. -/
  config : Json
  /-- The theme. -/
  theme : Theme
  /-- The conversions in the order in which they were made. -/
  history : List Record
  /-- What the last conversion gave. -/
  last? : Option Conversion
  /-- The variables with their values. -/
  bindings : List (Text × Text)
  /-- The files that commands read and write. -/
  disk : Disk
  deriving Inhabited

namespace Session

/-- The variable with the name of the last component. -/
def componentVariable : Text := "last.component"

/-- The variable with the file of the last component, which is empty if it was printed. -/
def outputVariable : Text := "last.output"

/-- Variables in which `name` has the value `value`. -/
def putVariable (name value : Text) : List (Text × Text) → List (Text × Text)
  | [] => [(name, value)]
  | v :: bindings =>
    if v.1 = name then (name, value) :: bindings else v :: putVariable name value bindings

/-- The value of a variable. -/
def valueOf? (s : Session) (name : Text) : Option Text := s.bindings.lookup name

/-- The session after a conversion. -/
def record (s : Session) (r : Record) (conversion : Conversion) : Session :=
  { s with
    history := s.history ++ [r]
    last? := some conversion
    bindings := putVariable outputVariable (r.output?.getD [])
      (putVariable componentVariable r.component s.bindings) }

/-- The session with the theme of its configuration, and what is logged about it. -/
def resetTheme (s : Session) : Session × List Log.Entry :=
  let (theme, entries) := Configuration.theme s.file.platform.guide s.config
  ({ s with theme }, entries)

/-- A session with the given configuration in which nothing has been done, and what is logged about
its theme. -/
def ofConfig (file : Configuration.File) (config : Json) (disk : Disk) : Session × List Log.Entry :=
  resetTheme ⟨file, config, Theme.default, [], none, [], disk⟩

/-- A session that starts from a settings file, and what is logged about it. -/
def start (file : Configuration.File) (disk : Disk) :
    Except Json.Error (Session × List Log.Entry) :=
  file.load.map fun (config, entries) =>
    let (session, more) := ofConfig file config disk
    (session, entries ++ more)

/-- A session in brief. -/
def shown (s : Session) : Text :=
  "<StudioContext conversions=" ++ Text.ofNat s.history.length ++ " vars_count=" ++
    Text.ofNat s.bindings.length ++ ">"

end Session

end Componentry
