import Componentry.CommandLine.Chain
import Componentry.Session.Arguments
import Componentry.Session.Export
import Componentry.Session.State
import Componentry.Text.Line

/-!
# The conversion command

Files are converted one after another. One that cannot be read or written does not stop the others;
a document that cannot be converted ends the command.
-/

namespace Componentry.Session

open CommandLine

/-! ### Themes on the command line -/

/-- Why a text is no theme. -/
inductive ThemeError
  /-- It has not three parts. -/
  | parts
  /-- A part is no integer. -/
  | integer (error : Numeral.IntegerError)
  /-- An integer is no channel. -/
  | channels (error : ValidationError)

/-- The error in words. `guide` is where the issues that a channel can have are explained. -/
def ThemeError.message (guide : Text) : ThemeError → Text
  | .parts => "expected three comma-separated values: <hue>,<saturation>,<lightness>"
  | .integer error => error.message
  | .channels error => error.message guide

/-- The theme with three channels that are written as integers. -/
def themeOfParts (hue saturation lightness : Text) : Except ThemeError Theme :=
  match Numeral.readInteger hue, Numeral.readInteger saturation, Numeral.readInteger lightness with
  | .error error, _, _ => .error (.integer error)
  | _, .error error, _ => .error (.integer error)
  | _, _, .error error => .error (.integer error)
  | .ok h, .ok s, .ok l =>
    match Theme.ofChannels (.int h) (.int s) (.int l) with
    | .ok theme => .ok theme
    | .error error => .error (.channels error)

/-- The theme that a text with two commas writes. -/
def readTheme (t : Text) : Except ThemeError Theme :=
  match (Text.splitOn ',' t).map Text.trim with
  | [hue, saturation, lightness] => themeOfParts hue saturation lightness
  | _ => .error .parts

/-! ### Converting files -/

/-- Where a component goes. -/
inductive Destination
  /-- It is printed. -/
  | print
  /-- It is written to a file. -/
  | file (target : Export)
  deriving Inhabited

/-- What is the same for all files of a command. -/
structure Job where
  /-- The settings of the conversions. -/
  settings : Settings
  /-- The styles that replace those of the documents, unless they are blank. -/
  styles : Text
  /-- The theme. -/
  theme : Theme
  /-- The name of the component; that of the file if it is empty. -/
  name : Text
  /-- Where the components go. -/
  destination : Destination
  deriving Inhabited

/-- Why a file is not converted. -/
inductive FileError
  /-- It cannot be read. -/
  | unread (error : DiskError)
  /-- Its component cannot be written. -/
  | unwritten (error : ExportError)
  /-- It cannot be converted. -/
  | unconverted (failure : Conversion.Failure)
  deriving DecidableEq, Repr

/-- The error in words. -/
def FileError.message : FileError → Text
  | .unread error => error.message
  | .unwritten error => error.message
  | .unconverted failure => failure.message

/-- The other files of the command are converted nevertheless. -/
def FileError.isLocal : FileError → Bool
  | .unread (.fault ..) => true
  | .unwritten (.disk (.fault ..)) => true
  | .unwritten (.occupied _) => true
  | _ => false

/-- What converting a file leads to. -/
structure Attempt where
  /-- The conversion and the file that it was written to, if it was, or why there is none. -/
  result : Except FileError (Conversion × Option Path)
  /-- The disk after it. -/
  disk : Disk
  /-- What it made visible. -/
  outputs : List Output

/-- The warning about a reader of markup that is not there. -/
def backendWarnings (settings : Settings) : List Output :=
  if settings.hasBackend then []
  else [.log ⟨.warning, .markup, "Parser backend '" ++ settings.backend ++
    "' is not available, using html.parser."⟩]

/-- A conversion goes to its destination. -/
def Job.deliver (job : Job) (conversion : Conversion) (source : Path) (disk : Disk) : Attempt :=
  match job.destination with
  | .print => ⟨.ok (conversion, none), disk, [.say conversion.source]⟩
  | .file target =>
    match target.write conversion source disk with
    | (.ok file, written) => ⟨.ok (conversion, some file), written, []⟩
    | (.error error, left) => ⟨.error (.unwritten error), left, []⟩

/-- The file `source` is converted. -/
def Job.attempt (job : Job) (source : Path) (disk : Disk) : Attempt :=
  match disk.read source with
  | .error error => ⟨.error (.unread error), disk, []⟩
  | .ok data =>
    let markup := Text.unifyNewlines (Utf8.decodeLenient data)
    let name := if job.name.isEmpty then source.stem else job.name
    let warnings := backendWarnings job.settings
    match Conversion.convert job.settings markup name job.styles job.theme with
    | .error failure => ⟨.error (.unconverted failure), disk, warnings⟩
    | .ok conversion =>
      let delivered := job.deliver conversion source disk
      { delivered with outputs := warnings ++ delivered.outputs }

/-- The record of a conversion. -/
def recordOf (source : Path) (conversion : Conversion) (file? : Option Path) : Record where
  source := source.toText
  component := conversion.name
  output? := file?.map Path.toText
  unitCount := conversion.units.length
  fieldCount := conversion.fields.length

/-- What is said of a conversion, which is nothing if its component was printed. -/
def successOutputs (r : Record) : List Output :=
  if r.output?.isSome then [.say ("✅ " ++ r.summary)] else []

/-- What is made visible of a file that is not converted while the others are. -/
def localFailureOutputs (source : Path) (error : FileError) : List Output :=
  [.log ⟨.error, .conversion,
      "Conversion of " ++ source.toText ++ " failed: " ++ error.message⟩,
    .say ("❌ " ++ source.toText ++ ": " ++ error.message)]

/-- An exit code as an answer. -/
def answerCode (code : Int) : Answer := .value (.int code)

/-- Files are converted in order; `failed` says that one before them was not. -/
def Job.convertAll (job : Job) (failed : Bool) (s : Session) : List Path → Outcome Session
  | [] => ⟨answerCode (if failed then 1 else 0), s, []⟩
  | source :: sources =>
    let attempt := job.attempt source s.disk
    let after := { s with disk := attempt.disk }
    match attempt.result with
    | .ok (conversion, file?) =>
      let r := recordOf source conversion file?
      let rest := job.convertAll failed (after.record r conversion) sources
      { rest with outputs := attempt.outputs ++ successOutputs r ++ rest.outputs }
    | .error error =>
      if error.isLocal then
        let rest := job.convertAll true after sources
        { rest with
          outputs := attempt.outputs ++ localFailureOutputs source error ++ rest.outputs }
      else ⟨.failure error.message, after, attempt.outputs⟩

/-! ### Preparing a job -/

/-- Why files are not converted at all. -/
inductive Refusal
  /-- The command says so and fails. -/
  | said (line : Text)
  /-- An error ends the command. -/
  | failed (message : Text)

/-- The settings of conversions under a configuration, with a reader of the given rule. -/
def conversionSettings (slash : Markup.SlashRule) (config : Json) :
    Except ValidationError Settings :=
  Settings.ofFields slash [
    ("parser_backend",
      Configuration.get config "transpiler.parser_backend" (.string Settings.standardBackend)),
    ("default_name",
      Configuration.get config "transpiler.default_name" (.string Settings.standardName)),
    ("script_mode", Configuration.get config "transpiler.script_mode" (.string "comment"))]

/-- Where files are written under a configuration. -/
def exportOf (config : Json) (directory? : Option Text) : Export where
  directory?
  extension := Configuration.get config "export.extension" (.string ".tsx")
  overwrite := !(Configuration.get config "export.overwrite" (.bool true)).isNothing

/-- The theme of a job: that of the session unless one is given. -/
def jobTheme (s : Session) (given : Text) : Except Refusal Theme :=
  if given.isEmpty then .ok s.theme
  else
    match readTheme given with
    | .ok theme => .ok theme
    | .error error => .error (.said ("❌ Invalid --theme: " ++ error.message s.file.platform.guide))

/-- The styles of a job: those of a file, if one is given. -/
def jobStyles (disk : Disk) (given : Text) : Except Refusal Text :=
  if given.isEmpty then .ok []
  else
    match disk.read (Path.parse given) with
    | .ok data =>
      match Utf8.decode data with
      | .ok styles => .ok (Text.unifyNewlines styles)
      | .error error => .error (.failed error.message)
    | .error .nullInPath => .error (.failed DiskError.nullInPath.message)
    | .error error => .error (.said ("❌ Could not read style file: " ++ error.message))

/-- The job that options ask for. -/
def jobOf (s : Session) (o : RunOptions) : Except Refusal Job := do
  let name := o.name?.getD []
  if !name.isEmpty && 1 < o.files.length then
    .error (.said "❌ Error: --name can only be used with a single file.")
  let theme ← jobTheme s (o.theme?.getD [])
  let styles ← jobStyles s.disk (o.styles?.getD [])
  match conversionSettings s.file.platform.slash s.config with
  | .error error => .error (.failed (error.message s.file.platform.guide))
  | .ok settings =>
    let destination := if o.prints then .print else .file (exportOf s.config o.directory?)
    .ok { settings, styles, theme, name, destination }

/-- Files are converted as options ask for. -/
def convertFiles (o : RunOptions) (s : Session) : Outcome Session :=
  match jobOf s o with
  | .error (.said line) => ⟨answerCode 1, s, [.say line]⟩
  | .error (.failed message) => ⟨.failure message, s, []⟩
  | .ok job => job.convertAll false s (o.files.map Path.parse)

/-! ### The last conversion -/

/-- What is worth saying of a unit: that it is stateful, and that another unit uses it. -/
def unitFlags (unit : ComponentUnit) : List Text :=
  (if unit.stateful then ["stateful".toList] else []) ++
    (if unit.mounted then [] else ["nested".toList])

/-- Flags between brackets; nothing if there are none. -/
def flagText (flags : List Text) : Text :=
  if flags.isEmpty then [] else [' ', '['] ++ List.intercalate [',', ' '] flags ++ [']']

/-- A unit on a line. -/
def unitLine (unit : ComponentUnit) : Text :=
  "  - " ++ unit.name ++ flagText (unitFlags unit)

/-- A state field on a line. -/
def fieldLine (field : Field) : Text :=
  "  - " ++ field.key ++ " (" ++ field.initial.kind ++ ") = " ++ field.initial.shown

/-- A text unless it is empty, or else `fallback`. -/
def orElse (t fallback : Text) : Text := if t.isEmpty then fallback else t

/-- The last conversion is shown. -/
def showLast (s : Session) : Outcome Session :=
  match s.last? with
  | none => ⟨answerCode 1, s, [.say "No conversion has been run in this session."]⟩
  | some conversion =>
    let component := orElse ((s.valueOf? componentVariable).getD []) conversion.name
    let output := orElse ((s.valueOf? outputVariable).getD []) printedTarget
    ⟨answerCode 0, s,
      [.say ("Component: " ++ component), .say ("Output: " ++ output),
        .say ("Units (" ++ Text.ofNat conversion.units.length ++ "):")] ++
      conversion.units.map (fun unit => .say (unitLine unit)) ++
      [.say ("State fields (" ++ Text.ofNat conversion.fields.length ++ "):")] ++
      conversion.fields.map fun field => .say (fieldLine field)⟩

/-- The conversion command. -/
def convertCommand : Handler Session := fun arguments s =>
  if arguments.isEmpty then ⟨answerCode 0, s, [.print Page.overview.text]⟩
  else
    match readInquiry false arguments with
    | .run options => convertFiles options s
    | .last => showLast s
    | .help page => ⟨answerCode 1, s, [.print page.text]⟩
    | .refused => ⟨answerCode 1, s, []⟩

end Componentry.Session
