import Componentry.Text.Basic

/-!
# Log

What is worth a warning or is an error is logged with its source. Levels are compared by numbers,
some of which have names.
-/

namespace Componentry.Log

/-- How serious a record is. -/
inductive Level
  /-- Something is not as it should be. -/
  | warning
  /-- Something was not done. -/
  | error
  deriving DecidableEq, Repr

/-- The part of the program that logs a record. -/
inductive Source
  /-- What runs the commands of a line. -/
  | chain
  /-- What reads and changes the configuration. -/
  | configuration
  /-- What keeps the session. -/
  | session
  /-- What converts files. -/
  | conversion
  /-- What reads markup. -/
  | markup
  deriving DecidableEq, Repr

/-- A record. -/
structure Entry where
  /-- How serious it is. -/
  level : Level
  /-- Where it comes from. -/
  source : Source
  /-- What it says. -/
  message : Text
  deriving DecidableEq, Repr

/-- The numbers of the named levels, by which levels are compared. -/
def levels : List (Text × Int) := [
  ("DEBUG", 10), ("INFO", 20), ("WARNING", 30), ("ERROR", 40), ("CRITICAL", 50), ("NOTSET", 0),
  ("WARN", 30), ("FATAL", 50)]

/-- How high a level is. -/
inductive Rank
  /-- It has this number. -/
  | number (n : Int)
  /-- It is a truth value, which counts as one or zero. -/
  | flag (b : Bool)
  deriving DecidableEq, Repr, Inhabited

namespace Rank

/-- The number by which ranks are compared. -/
def value : Rank → Int
  | .number n => n
  | .flag true => 1
  | .flag false => 0

/-- A rank in words. -/
def shown : Rank → Text
  | .number n => Text.ofInt n
  | .flag true => "True"
  | .flag false => "False"

/-- The name of the level of a rank. -/
def levelName (r : Rank) : Text :=
  match levels.find? (·.2 = r.value) with
  | some (name, _) => name
  | none => "Level " ++ r.shown

end Rank

/-- The rank of a level. -/
def Level.rank : Level → Rank
  | .warning => .number 30
  | .error => .number 40

end Componentry.Log
