import Componentry.Log.Threshold

/-!
# Records

Records pass thresholds one after the other. The source of a record becomes known with it, and what
has been decided once for a source and a level is not decided anew.
-/

namespace Componentry.Log

/-- What a source reports. -/
structure Record where
  /-- The name of the source. -/
  source : Text
  /-- The rank of the level. -/
  level : Rank
  /-- What is reported. -/
  message : Text
  deriving DecidableEq, Repr

/-- The rank that a value stands for, if it is one. -/
def rank? : Json → Option Rank
  | .int n => some (.number n)
  | .bool b => some (.flag b)
  | _ => none

/-- The complaint about a record whose level has no rank. -/
def noRank : Text := "level must be an integer"

/-- A record on a line, without the end of the line. -/
def Record.line (r : Record) : Text :=
  r.level.levelName ++ " - [" ++ (if r.source.isEmpty then rootName else r.source) ++ "] - " ++
    r.message

/-- Thresholds with what has been decided by them. -/
structure Gate where
  /-- The thresholds. -/
  thresholds : Thresholds
  /-- The sources and levels of which records are shown or not. -/
  decisions : List ((Text × Int) × Bool)
  deriving DecidableEq, Repr

namespace Gate

/-- A gate that has not decided anything. -/
def ofThresholds (t : Thresholds) : Gate := ⟨t, []⟩

/-- Whether a record is shown, and the gate after it. -/
def judge (g : Gate) (r : Record) : Bool × Gate :=
  let t := g.thresholds.learn r.source
  match g.decisions.lookup (r.source, r.level.value) with
  | some shown => (shown, { g with thresholds := t })
  | none =>
    let shown := t.shows r.source r.level
    (shown, ⟨t, ((r.source, r.level.value), shown) :: g.decisions⟩)

/-- The records that are shown. -/
def shown (g : Gate) : List Record → List Record
  | [] => []
  | r :: records =>
    match g.judge r with
    | (true, next) => r :: next.shown records
    | (false, next) => next.shown records

end Gate

end Componentry.Log
