import Componentry.Log.Record
import Componentry.Session.Shell

/-!
# The program

The program runs its arguments as one line of commands, or asks for lines until it is told to quit.
A line works on a disk that holds what the file system has at the paths that the line mentions and
at those that it writes to; afterwards what has changed on that disk is written back.
-/

namespace Componentry.Program

/-! ### The file system -/

/-- A text as the rest of the system writes it. -/
def name (t : Text) : String := String.ofList t

/-- The location that an absolute path writes. -/
def locationOf (path : String) : Location := (Path.parse path.toList).names

/-- How the file system writes a location. -/
def pathOf (at_ : Location) : String := name (Export.absolute at_).toText

/-- What the file system has at a location. -/
def look (at_ : Location) : IO (Option DiskEntry) := do
  try
    let data ← IO.FS.readBinFile (pathOf at_)
    return some (.file data.toList)
  catch
    | .inappropriateType .. => return some .directory
    | _ => return none

/-- The disk with what the file system has on the way along the names from a location. -/
def load (d : Disk) (at_ : Location) : List Text → IO Disk
  | [] => return d
  | name :: names =>
    if name = ".." then load d at_.dropLast names
    else do
      match ← look (at_ ++ [name]) with
      | none => return d
      | some entry => load (d.put (at_ ++ [name]) entry) (at_ ++ [name]) names

/-- The disk with what the file system has on the way to a path. -/
def loadPath (d : Disk) (p : Path) : IO Disk :=
  load d (if p.isAbsolute then [] else d.workplace) p.names

/-- The words that can be paths in an argument: all of it, and what follows an equals sign. -/
def candidates (argument : Text) : List Text :=
  argument :: ((Text.cut? '=' argument).map (·.2)).toList

/-- The paths that a line mentions. -/
def mentioned (d : Disk) (line : Text) : List Path :=
  (CommandLine.segments line).flatMap fun segment =>
    (segment.arguments.flatMap candidates).filterMap fun word =>
      (Export.expandHome d (Path.parse word)).toOption

/-- The disk that a line works on, in the place of the disk `d`. -/
def diskFor (line : Text) (d : Disk) : IO Disk := do
  let placed ← load { d with entries := [] } [] d.workplace
  (mentioned d line).foldlM loadPath placed

/-- The entries that are on the disk `after` and were not, or were others, on the disk `before`. -/
def changes (before after : Disk) : List (Location × DiskEntry) :=
  after.entries.filter fun (at_, entry) => before.entries.lookup at_ ≠ some entry

/-- Changes are written to the file system. -/
def store (changes : List (Location × DiskEntry)) : IO Unit :=
  changes.forM fun (at_, entry) =>
    match entry with
    | .directory => IO.FS.createDir (pathOf at_)
    | .file data => IO.FS.writeBinFile (pathOf at_) ⟨data.toArray⟩

/-- A line is run. If it writes where the file system has something that the disk has not, it is run
anew on a disk that has it; nothing is written back before all such places are known. -/
partial def settle (line : Text) (s : Session) : IO (CommandLine.Run Session) := do
  let run := Session.runLine line s
  let unseen := (changes s.disk run.state.disk).filter fun (at_, _) => (s.disk.find? at_).isNone
  let found ← unseen.filterMapM fun (at_, _) => do return (← look at_).map (at_, ·)
  if found.isEmpty then
    store (changes s.disk run.state.disk)
    return run
  else settle line { s with disk := found.foldl (fun d (at_, entry) => d.put at_ entry) s.disk }

/-! ### Output -/

/-- The name of a source, under which thresholds are configured. -/
def sourceName : Log.Source → Text
  | .chain => "shell.chain"
  | .configuration => "shell.configuration"
  | .session => "shell.session"
  | .conversion => "shell.conversion"
  | .markup => "transpiler.markup"

/-- The thresholds that a configuration asks for. All sources of the program are known to them. -/
def thresholds (config : Json) : Except Log.ThresholdError Log.Thresholds :=
  (Log.Thresholds.ofValues (Configuration.get config "debug.level" (.string "WARNING"))
    (Configuration.get config "debug.modules" .null)).map fun t =>
      [Log.Source.chain, .configuration, .session, .conversion, .markup].foldl
        (fun t source => t.learn (sourceName source)) t

/-- A record is logged if the thresholds let it pass. -/
def logEntry (t : Log.Thresholds) (entry : Log.Entry) : IO Unit :=
  let record : Log.Record := ⟨sourceName entry.source, entry.level.rank, entry.message⟩
  if t.shows record.source record.level then IO.eprintln (name record.line) else return ()

/-- Output becomes visible. -/
def emit (t : Log.Thresholds) (outputs : List Output) : IO Unit :=
  outputs.forM fun
    | .print text => IO.print (name text)
    | .log entry => logEntry t entry

/-! ### Running -/

/-- A line is run on the file system. -/
def perform (t : Log.Thresholds) (line : Text) (s : Session) : IO (CommandLine.Run Session) := do
  let run ← settle line { s with disk := ← diskFor line s.disk }
  emit t run.outputs
  return run

/-- Lines are asked for and run until one asks to quit or the input ends. -/
partial def interact (t : Log.Thresholds) (s : Session) : IO Unit := do
  IO.print (name Session.prompt)
  (← IO.getStdout).flush
  let line ← (← IO.getStdin).getLine
  if line.isEmpty then return ()
  let text := Text.trim line.toList
  if text.isEmpty then interact t s
  else
    let run ← perform t text s
    if run.code = CommandLine.quitCode then return ()
    else interact t run.state

/-- The settings file, which is beside the program. Without one the program has its own. It may nest
as deep as its length allows, and the environment says where issues are explained. -/
def settingsFile : IO Configuration.File := do
  let program := Path.parse (← IO.appPath).toString.toList
  let path := (program.parent.join "settings.json").toText
  let content :=
    match ← look (Path.parse path).names with
    | some (.file data) => Utf8.decodeLenient data
    | _ => Configuration.shipped.indented
  let guide := ((← IO.getEnv "COMPONENTRY_GUIDE").map (·.toList)).getD []
  return ⟨path, some content, ⟨content.length, guide, .closes⟩⟩

/-- The homes that a table of users has, which has a line for each user. -/
def homesOf (table : Text) : List (Text × Location) :=
  (Text.splitOn '\n' table).filterMap fun line =>
    match Text.splitOn ':' line with
    | user :: _ :: _ :: _ :: _ :: home :: _ => some (user, (Path.parse home).names)
    | _ => none

/-- A session at the place where the program was started. -/
def begin : IO (Except Json.Error (Session × List Log.Entry)) := do
  let workplace := locationOf (← IO.currentDir).toString
  let home := ((← IO.getEnv "HOME").map locationOf).getD workplace
  let homes :=
    match ← look ["etc", "passwd"] with
    | some (.file data) => homesOf (Utf8.decodeLenient data)
    | _ => []
  return Session.start (← settingsFile) ⟨[], workplace, home, homes⟩

/-- The exit code as the system takes it. -/
def status (code : Int) : UInt32 := (code % 256).toNat.toUInt32

/-- The arguments are run as one line, or else lines are asked for. -/
def run (arguments : List String) : IO UInt32 := do
  match ← begin with
  | .error error =>
    IO.eprintln (name error.message)
    return 1
  | .ok (session, entries) =>
    match thresholds session.config with
    | .error error =>
      IO.eprintln (name error.message)
      return 1
    | .ok t =>
      entries.forM (logEntry t)
      if arguments.isEmpty then
        emit t [.say Session.welcome]
        interact t session
        emit t [.say Session.farewell]
        return 0
      else
        let done ← perform t (CommandLine.joinWords (arguments.map (·.toList))) session
        return status (Session.programCode done.code)

end Componentry.Program

/-- The program is run with its arguments. -/
def main (arguments : List String) : IO UInt32 := Componentry.Program.run arguments
