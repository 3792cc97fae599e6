import Componentry.Json.Printer
import Componentry.Log
import Componentry.Text.Casing

/-!
# Thresholds

Which records are shown depends on thresholds: one for all sources, and others for sources by name.
A source without a threshold has that of the source above it, where names are put below each other
by their dots. Only sources that have become known count, so that what a source is below may change
as more of them become known.
-/

namespace Componentry.Log

/-- Why values give no thresholds. -/
inductive ThresholdError
  /-- A name stands for this text and not for a level. -/
  | unknown (text : Text)
  /-- A value is no level; it is shown like this. -/
  | notLevel (shown : Text)
  /-- The thresholds of sources by name are a value of this type and no section. -/
  | notSection (type : Text)
  deriving DecidableEq, Repr

/-- The error in words. -/
def ThresholdError.message : ThresholdError → Text
  | .unknown text => "Unknown level: " ++ text.quoted
  | .notLevel shown => "Level not an integer or a valid string: " ++ shown
  | .notSection type => "'" ++ type ++ "' object has no attribute 'items'"

/-- What a name stands for, which is a level or a setting of the log that is none: the layout of
records, or the styles that layouts are written in. -/
def named? (name : Text) : Option (Except ThresholdError Int) :=
  if name = "BASIC_FORMAT" then some (.error (.unknown "%(levelname)s:%(name)s:%(message)s"))
  else if name = "_STYLES" then some (.error (.notLevel styles))
  else (levels.lookup name).map .ok
where
  /-- The styles, as they are shown. -/
  styles : Text :=
    "\x7b'%': (<class 'logging.PercentStyle'>, '%(levelname)s:%(name)s:%(message)s'), " ++
      "'\x7b': (<class 'logging.StrFormatStyle'>, '\x7blevelname\x7d:\x7bname\x7d:" ++
      "\x7bmessage\x7d'), '$': (<class 'logging.StringTemplateStyle'>, " ++
      "'$\x7blevelname\x7d:$\x7bname\x7d:$\x7bmessage\x7d')\x7d"

/-- The threshold that a value stands for: a rank, or a name in any case. Names that stand for
nothing give `fallback`. -/
def threshold (fallback : Int) : Json → Except ThresholdError Rank
  | .string name => ((named? name.upper).getD (.ok fallback)).map .number
  | .int n => .ok (.number n)
  | .bool b => .ok (.flag b)
  | value => .error (.notLevel value.shown)

/-! ### Sources -/

/-- The name of what all sources are below. -/
def rootName : Text := "root"

/-- A name stands for all sources. -/
def isRoot (name : Text) : Bool := name.isEmpty || name = rootName

/-- The names above the dotted name that is `reversed` when read from right to left. -/
def aboveReversed : Text → List Text
  | [] => []
  | '.' :: c :: reversed => (c :: reversed).reverse :: aboveReversed reversed
  | _ :: reversed => aboveReversed reversed

/-- The names above a dotted name, the longest first: what precedes a dot. The character before such
a dot is part of the name above in any case, so that of two adjacent dots the first one does not
count, and neither does a dot at the start. -/
def above (name : Text) : List Text := aboveReversed name.reverse

/-- The thresholds in force. -/
structure Thresholds where
  /-- The threshold of all sources that no other holds for. -/
  general : Rank
  /-- The thresholds of sources by name. A threshold of zero counts as none. -/
  named : List (Text × Rank)
  /-- The known sources, with what each of them is directly below. -/
  known : List (Text × Text)
  deriving DecidableEq, Repr

namespace Thresholds

/-- A source becomes known. It is put below the nearest known source above it, and what is below it
by name is put below it, except what is below a source already whose name starts with the same
text. -/
def learn (t : Thresholds) (name : Text) : Thresholds :=
  if isRoot name || (t.known.lookup name).isSome then t
  else
    let parent := ((above name).find? fun n => (t.known.lookup n).isSome).getD rootName
    let known := t.known.map fun (child, parent) =>
      if (above child).contains name && !Text.startsWith parent name then (child, name)
      else (child, parent)
    { t with known := (name, parent) :: known }

/-- A threshold is set: for all sources under the name that stands for them, and else for the
sources of that name. -/
def set (t : Thresholds) (name : Text) (level : Rank) : Thresholds :=
  if isRoot name then { t with general := level }
  else
    let t := t.learn name
    { t with named := (name, level) :: t.named }

/-- The thresholds `t` after those that values set for sources by name. -/
def setAll (t : Thresholds) : Json.Fields → Except ThresholdError Thresholds
  | [] => .ok t
  | (name, value) :: values =>
    match threshold 20 value with
    | .ok level => (t.set name.name level).setAll values
    | .error error => .error error

/-- The thresholds that a general one and a section of named ones give, where texts that name
nothing stand for warnings and for information. -/
def ofValues (general modules : Json) : Except ThresholdError Thresholds :=
  match threshold 30 general with
  | .error error => .error error
  | .ok level =>
    match modules with
    | .object fields => setAll ⟨level, [], []⟩ fields
    | modules =>
      if modules.isNothing then .ok ⟨level, [], []⟩ else .error (.notSection modules.typeName)

/-- The threshold of exactly the given name; zero if it has none. -/
def own (t : Thresholds) (name : Text) : Rank :=
  if isRoot name then t.general else (t.named.lookup name).getD (.number 0)

/-- The threshold that holds for a source, or the general one if none is found in `steps` steps. -/
def effectiveWithin (t : Thresholds) : Nat → Text → Int
  | 0, _ => t.general.value
  | steps + 1, name =>
    match t.known.lookup name with
    | none => t.general.value
    | some parent =>
      let own := (t.own name).value
      if own = 0 then t.effectiveWithin steps parent else own

/-- The threshold that holds for a source: its own or that of the nearest source above it. Every
step leads to another known source. -/
def effective (t : Thresholds) (name : Text) : Int := t.effectiveWithin t.known.length name

/-- A record of the given source and level is shown. -/
def shows (t : Thresholds) (name : Text) (level : Rank) : Bool :=
  0 < level.value && t.effective name ≤ level.value

end Thresholds

end Componentry.Log
