import Componentry.Component.Conversion
import Componentry.Text.Utf8

/-!
# Conversion requests

A conversion that is asked for with arguments of any type. Arguments are checked in their order, and
the first one of a wrong type is reported.
-/

namespace Componentry

/-- An argument of a conversion. -/
inductive Argument
  /-- A value. -/
  | value (value : Json)
  /-- Bytes. -/
  | bytes (data : List UInt8)
  /-- A theme. -/
  | theme (theme : Theme)
  deriving Inhabited

namespace Argument

/-- The name of an argument's type in messages. -/
def typeName : Argument → Text
  | .value v => v.typeName
  | .bytes _ => "bytes"
  | .theme _ => Theme.record

/-- Why an argument is refused. -/
inductive Error
  /-- The markup is no text. -/
  | markup (type : Text)
  /-- The artifact's name is no text. -/
  | artifactName (type : Text)
  /-- The styles that replace those of the document are no text. -/
  | styleOverride (type : Text)
  /-- The theme has none of the forms of a theme. -/
  | themeForm (type : Text)
  /-- The theme has a channel that is none. -/
  | theme (error : ValidationError)
  deriving Inhabited

/-- The error in words; of several issues with a theme, only how many there are. -/
def Error.message : Error → Text
  | .markup type => "markup must be a string, got " ++ type ++ "."
  | .artifactName type => "artifact_name must be a string, got " ++ type ++ "."
  | .styleOverride type => "style_override must be a string, got " ++ type ++ "."
  | .themeForm type => "Theme must be ThemeParams, a mapping or a 3-tuple, got " ++ type ++ "."
  | .theme error => "Invalid theme parameters: " ++ error.headline

/-- Markup, which may be given as bytes. -/
def toMarkup : Argument → Except Error Text
  | .value (.string t) => .ok t
  | .bytes data => .ok (Utf8.decodeLenient data)
  | argument => .error (.markup argument.typeName)

/-- The text of an argument that may be absent, which counts as empty. -/
def toText (error : Text → Error) : Argument → Except Error Text
  | .value .null => .ok []
  | .value (.string t) => .ok t
  | argument => .error (error argument.typeName)

/-- The theme of an argument, if it is given: a theme, an object with its channels or a list of
them. -/
def toTheme : Argument → Except Error (Option Theme)
  | .value .null => .ok none
  | .theme given => .ok (some given)
  | .value (.object fields) =>
    match Theme.ofFields fields with
    | .ok read => .ok (some read)
    | .error refused => .error (.theme refused)
  | .value (.array [hue, saturation, lightness]) =>
    match Theme.ofChannels hue saturation lightness with
    | .ok read => .ok (some read)
    | .error refused => .error (.theme refused)
  | argument => .error (.themeForm argument.typeName)

end Argument

/-- Arguments of a conversion. -/
structure Request where
  /-- The markup. -/
  markup : Argument
  /-- The name of the artifact. -/
  artifactName : Argument := .value (.string Settings.standardName)
  /-- The styles that replace those of the document. -/
  styleOverride : Argument := .value (.string [])
  /-- The theme. -/
  theme : Argument := .value .null
  deriving Inhabited

namespace Request

/-- Why a request has no conversion. -/
inductive Failure
  /-- An argument is refused. -/
  | argument (error : Argument.Error)
  /-- The document is not converted. -/
  | conversion (failure : Conversion.Failure)
  deriving Inhabited

/-- The checked arguments of a request: markup, name, styles and theme. -/
def check (r : Request) : Except Argument.Error (Text × Text × Text × Theme) := do
  let markup ← r.markup.toMarkup
  let name ← r.artifactName.toText .artifactName
  let styles ← r.styleOverride.toText .styleOverride
  let theme ← r.theme.toTheme
  .ok (markup, name, styles, theme.getD Theme.default)

/-- The conversion of a request. -/
def run (settings : Settings) (r : Request) : Except Failure Conversion :=
  match r.check with
  | .error error => .error (.argument error)
  | .ok (markup, name, styles, theme) =>
    match Conversion.convert settings markup name styles theme with
    | .error failure => .error (.conversion failure)
    | .ok conversion => .ok conversion

end Request

end Componentry
