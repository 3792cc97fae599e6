import Componentry.Markup.Source
import Componentry.Validation

/-!
# Conversion settings

What a conversion can be told once for all documents.
-/

namespace Componentry

/-- What becomes of the scripts of a document. -/
inductive ScriptMode
  /-- They are kept in a comment. -/
  | comment
  /-- They are run when the component is mounted. -/
  | inline
  /-- They are left out. -/
  | drop
  deriving DecidableEq, Repr, Inhabited

/-- The mode of a name. -/
def ScriptMode.ofName? (name : Text) : Option ScriptMode :=
  if name = "comment" then some .comment
  else if name = "inline" then some .inline
  else if name = "drop" then some .drop
  else none

/-- The settings of a conversion. -/
structure Settings where
  /-- The reader of markup that is asked for. There is only one, so that it matters for a warning
  alone. -/
  backend : Text
  /-- The name of a component whose document gives none. -/
  defaultName : Text
  /-- What becomes of scripts. -/
  scripts : ScriptMode
  /-- What the reader of markup makes of a slash at the end of a tag. This comes with the reader and
  is not asked for. -/
  slash : Markup.SlashRule
  deriving DecidableEq, Repr, Inhabited

namespace Settings

/-- The name of the reader of markup. -/
def standardBackend : Text := "html.parser"

/-- The name of a component that nothing else names. -/
def standardName : Text := "ManifestedApp"

/-- The settings that are used where none are given. -/
def default : Settings := ⟨standardBackend, standardName, .comment, .closes⟩

/-- The names under which the reader of markup is known. -/
def backends : List Text := [standardBackend, "html", "strict"]

/-- The reader of markup that is asked for is there. -/
def hasBackend (s : Settings) : Bool := backends.contains s.backend

/-- The text that a field gives, or `fallback` if there is none, with the issue of another value. -/
def textField (fields : Json.Fields) (name fallback : Text) : Text × List Issue :=
  match Json.find? name fields with
  | none => (fallback, [])
  | some (.string t) => (t, [])
  | some value => (fallback, [⟨name, "string_type", "Input should be a valid string", value⟩])

/-- The script mode that a field gives, or the standard one if there is none, with the issue of
another value. -/
def modeField (fields : Json.Fields) (name : Text) : ScriptMode × List Issue :=
  let issue (value : Json) : ScriptMode × List Issue :=
    (.comment, [⟨name, "enum", "Input should be 'comment', 'inline' or 'drop'", value⟩])
  match Json.find? name fields with
  | none => (.comment, [])
  | some (.string t) =>
    match ScriptMode.ofName? t with
    | some mode => (mode, [])
    | none => issue (.string t)
  | some value => issue value

/-- The settings that fields give with a reader of the given rule. Missing ones are the standard
ones, and fields of other names count for nothing. -/
def ofFields (slash : Markup.SlashRule) (fields : Json.Fields) : Except ValidationError Settings :=
  let (backend, backendIssues) := textField fields "parser_backend" standardBackend
  let (defaultName, nameIssues) := textField fields "default_name" standardName
  let (scripts, scriptIssues) := modeField fields "script_mode"
  match backendIssues ++ nameIssues ++ scriptIssues with
  | [] => .ok ⟨backend, defaultName, scripts, slash⟩
  | issues => .error ⟨"TranspilerSettings", issues⟩

end Settings

end Componentry
