import Componentry.Configuration.Update
import Componentry.Session.Convert

/-!
# Commands

The commands of the shell, each with its name, its help and what it does. What a command refuses is
said and counts as a failure.
-/

namespace Componentry.Session

open CommandLine

/-- An outcome with an exit code and a line. -/
def saying (code : Int) (line : Text) (s : Session) : Outcome Session :=
  ⟨answerCode code, s, [.say line]⟩

/-- Records as output. -/
def logs (entries : List Log.Entry) : List Output := entries.map .log

/-! ### Configuration -/

/-- Help about the configuration command. -/
def configHelp : Text := Text.ofLines [
  "  config list                Show the current configuration as JSON.",
  "  config set <key> <value>   Set a config value for the session " ++
    "(e.g., transpiler.script_mode inline).",
  "  config reset               Reload the configuration from settings.json."]

/-- What is said of a changed setting. -/
def changeLine (path : Text) (value : Json) : Text :=
  "✅ Config updated: " ++ path ++ " = " ++ value.display ++ " (type: " ++ value.typeName ++ ")"

/-- A setting is changed. A change below the theme section takes effect at once. -/
def changeConfig (path value : Text) (s : Session) : Outcome Session :=
  match Configuration.set s.config path (.string value) with
  | .error error => ⟨.failure error.message, s, []⟩
  | .ok (.refused reason) =>
    ⟨answerCode 1, s, [.log reason,
      .say ("❌ Error: Failed to set config value for key '" ++ path ++ "'.")]⟩
  | .ok (.stored config warnings) =>
    let changed := { s with config }
    let (after, entries) :=
      if Text.startsWith path "theme." then changed.resetTheme else (changed, [])
    ⟨answerCode 0, after, logs (warnings ++ entries) ++
      [.say (changeLine path (Configuration.get config path .null))]⟩

/-- The configuration is read again from the settings file. -/
def resetConfig (s : Session) : Outcome Session :=
  match s.file.load with
  | .error error => ⟨.failure error.message, s, []⟩
  | .ok (config, entries) =>
    let (after, more) := { s with config }.resetTheme
    ⟨answerCode 0, after, logs (entries ++ more) ++
      [.say "✅ Configuration has been reset to the values from settings.json."]⟩

/-- The configuration command. -/
def configCommand : Handler Session := fun arguments s =>
  match arguments with
  | [] => saying 1 configHelp s
  | action :: rest =>
    if action = "list" then saying 0 s.config.indented s
    else if action = "set" then
      match rest with
      | path :: word :: words => changeConfig path (List.intercalate [' '] (word :: words)) s
      | _ => saying 1 "Usage: config set <key> <value>" s
    else if action = "reset" then resetConfig s
    else saying 1 ("Unknown command: 'config " ++ action ++ "'.") s

/-! ### Theme -/

/-- Help about the theme command. -/
def themeHelp : Text := Text.ofLines [
  "  theme show                 Show the accent theme used for conversions.",
  "  theme set <h> <s> <l>      Set hue (0-360), saturation and lightness (0-100) " ++
    "for this session.",
  "  theme reset                Restore the theme from settings.json."]

/-- A theme on a line. -/
def themeLine (t : Theme) : Text :=
  "hue=" ++ Text.ofNat t.hue ++ " saturation=" ++ Text.ofNat t.saturation ++ "% lightness=" ++
    Text.ofNat t.lightness ++ "%"

/-- What is said of a new theme. -/
def newThemeLine (t : Theme) : Text :=
  "✅ Theme set to hsl(" ++ Text.ofNat t.hue ++ ", " ++ Text.ofNat t.saturation ++ "%, " ++
    Text.ofNat t.lightness ++ "%)."

/-- What the first issue of an error says. -/
def firstIssue (error : ValidationError) : Text :=
  match error.issues with
  | [] => []
  | issue :: _ => issue.message

/-- The theme is changed for the session. -/
def changeTheme (hue saturation lightness : Text) (s : Session) : Outcome Session :=
  match Theme.ofChannels (.string hue) (.string saturation) (.string lightness) with
  | .ok theme => saying 0 (newThemeLine theme) { s with theme }
  | .error error => saying 1 ("❌ Invalid theme: " ++ firstIssue error) s

/-- The theme of the configuration is restored. -/
def restoreTheme (s : Session) : Outcome Session :=
  let (after, entries) := s.resetTheme
  ⟨answerCode 0, after, logs entries ++ [.say "✅ Theme restored from settings.json."]⟩

/-- The theme command. -/
def themeCommand : Handler Session := fun arguments s =>
  match arguments with
  | [] => saying 0 (themeLine s.theme) s
  | action :: rest =>
    if action = "show" then saying 0 (themeLine s.theme) s
    else if action = "set" then
      match rest with
      | [hue, saturation, lightness] => changeTheme hue saturation lightness s
      | _ => saying 1 "Usage: theme set <hue> <saturation> <lightness>" s
    else if action = "reset" then restoreTheme s
    else saying 1 ("Unknown command: 'theme " ++ action ++ "'.") s

/-! ### All commands -/

/-- Help about the conversion command. -/
def convertHelp : Text := Text.ofLines [
  "  convert run <file...> [--name <Name>] [--css <file>] [--theme <h,s,l>] [--out <dir>] " ++
    "[--stdout]",
  "      Converts markup documents into stateful component modules.",
  "      Each result is written to '<ComponentName>.tsx' next to its source (or into --out).",
  "  convert last",
  "      Shows the units and state fields of the last conversion."]

/-- The commands, in the order of their names. -/
inductive Command
  /-- Shows and changes the configuration. -/
  | config
  /-- Converts files. -/
  | convert
  /-- Shows the help page. -/
  | help
  /-- Ends the session. -/
  | quit
  /-- Shows and changes the theme. -/
  | theme
  deriving DecidableEq, Repr

namespace Command

/-- All commands, in the order of their names. -/
def all : List Command := [.config, .convert, .help, .quit, .theme]

/-- The name of a command. -/
def name : Command → Text
  | .config => "config"
  | .convert => "convert"
  | .help => "help"
  | .quit => "quit"
  | .theme => "theme"

/-- The words that can follow the name of a command, if there are any. -/
def actions? : Command → Option (List Text)
  | .config => some ["list", "set", "reset"]
  | .convert => some ["run", "last"]
  | .theme => some ["show", "set", "reset"]
  | _ => none

/-- Help about a command, if the help page has any beyond its head. -/
def help? : Command → Option Text
  | .config => some configHelp
  | .convert => some convertHelp
  | .theme => some themeHelp
  | _ => none

/-- The command of a name. -/
def ofName? (name : Text) : Option Command := all.find? (·.name = name)

@[simp]
theorem ofName?_name (c : Command) : ofName? c.name = some c := by
  cases c <;> decide

end Command

/-- The head of the help page. -/
def helpHead : Text := Text.ofLines [
  "Manifest Studio Shell - Help",
  "",
  "Converts AI-generated markup artifacts into stateful component modules.",
  "",
  "---",
  "OPERATORS",
  "---",
  "  A ; B               Execute B after A, regardless of the outcome.",
  "  A && B              Execute B only if A was successful (exit code 0).",
  "  A || B              Execute B only if A failed (exit code != 0).",
  "",
  "---",
  "COMMANDS",
  "---",
  "GENERAL:",
  "  help                Show this help text.",
  "  quit                Exit the shell."]

/-- The help page. -/
def helpPage : Text :=
  List.intercalate ['\n', '\n'] (helpHead :: Command.all.filterMap Command.help?)

/-- What a command does. -/
def Command.handler : Command → Handler Session
  | .config => configCommand
  | .convert => convertCommand
  | .help => fun _ s => saying 0 helpPage s
  | .quit => fun _ s => ⟨answerCode quitCode, s, []⟩
  | .theme => themeCommand

end Componentry.Session
