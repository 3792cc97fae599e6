import Componentry.Json.Printer
import Componentry.Json.Reader
import Componentry.Log
import Componentry.Platform
import Componentry.Text.Line
import Componentry.Theme
import Componentry.Configuration.Basic

/-!
# Settings file

The configuration starts from a settings file. Without one, or with one that cannot be read, it is
empty, which is logged.
-/

namespace Componentry.Configuration

/-- The configuration that the program comes with. -/
def shipped : Json := .object [
  ("debug", .object [
    ("level", .string "WARNING"), ("modules", .object [("transpiler", .string "WARNING")])]),
  ("transpiler", .object [
    ("parser_backend", .string "html.parser"), ("default_name", .string "ManifestedApp"),
    ("script_mode", .string "comment")]),
  ("theme", .object [("hue", .int 217), ("saturation", .int 91), ("lightness", .int 60)]),
  ("export", .object [("extension", .string ".tsx"), ("overwrite", .bool true)])]

/-- A settings file, and the platform that it is read on. -/
structure File where
  /-- Where it is. -/
  path : Text
  /-- What it holds, if it is there. -/
  content? : Option Text
  /-- The platform. -/
  platform : Platform
  deriving DecidableEq, Repr, Inhabited

namespace File

/-- The warning that there is no settings file. -/
def missing (path : Text) : Log.Entry :=
  ⟨.warning, .configuration, "settings.json not found at " ++ path ++ ". Using empty config."⟩

/-- The error that a settings file could not be read. -/
def unreadable (message : Text) : Log.Entry :=
  ⟨.error, .configuration, "Failed to load settings.json: " ++ message⟩

/-- The configuration that a settings file gives, and what is logged about it. A file with too long
an integer or with too deep a list or object gives none. -/
def load (file : File) : Except Json.Error (Json × List Log.Entry) :=
  match file.content? with
  | none => .ok (.object [], [missing file.path])
  | some content =>
    match Json.parse file.platform.maxDepth (Text.unifyNewlines content) with
    | .ok config => .ok (config, [])
    | .error error =>
      match error with
      | .fault .. => .ok (.object [], [unreadable error.message])
      | error => .error error

end File

/-- The theme of a configuration and what is logged about it. A theme section that is no theme gives
the default theme, with a warning unless the section counts as nothing. `guide` is where issues are
explained. -/
def theme (guide : Text) (config : Json) : Theme × List Log.Entry :=
  let given := get config "theme" (.object [])
  match Theme.ofValue (if given.isNothing then .object [] else given) with
  | .ok theme => (theme, [])
  | .error error =>
    (Theme.default, [⟨.warning, .session,
      "Invalid theme in settings.json, using defaults: " ++ error.message guide⟩])

end Componentry.Configuration
