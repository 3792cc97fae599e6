import Componentry.Configuration.Basic
import Componentry.Configuration.Cast
import Componentry.Log

/-!
# Changing the configuration

A setting is changed for the session. The new value is cast to the type of the old one; one that
does not fit is stored as it is, with a warning.
-/

namespace Componentry.Configuration

/-- Why a change is impossible. -/
inductive SetError
  /-- The whole configuration is a value of this type and no object, and has no such member. -/
  | noObject (type member : Text)
  /-- The value is infinite and an integer is wanted. -/
  | infinite
  /-- The value is too large an integer. -/
  | tooLarge
  deriving DecidableEq, Repr

/-- The error in words. -/
def SetError.message : SetError → Text
  | .noObject type member => "'" ++ type ++ "' object has no attribute '" ++ member ++ "'"
  | .infinite => "cannot convert float infinity to integer"
  | .tooLarge => "int too large to convert to float"

/-- What a change leads to. -/
inductive Change
  /-- The configuration is changed, perhaps with warnings. -/
  | stored (config : Json) (warnings : List Log.Entry)
  /-- The configuration is as before, for the logged reason. -/
  | refused (reason : Log.Entry)
  deriving Inhabited

/-- The warning that a value for `path` does not fit the type of `old`. -/
def unfitWarning (path : Text) (old value : Json) : Log.Entry :=
  match old with
  | .bool _ =>
    ⟨.warning, .configuration, "Could not cast '" ++ value.display ++ "' for '" ++ path ++
      "' to bool. Storing as string."⟩
  | old =>
    ⟨.warning, .configuration, "Could not cast new value for '" ++ path ++ "' to type " ++
      old.typeName ++ ". Storing as string."⟩

/-- The error that a section is wanted where there is none. -/
def sectionError (key : Text) : Log.Entry :=
  ⟨.error, .configuration, "Cannot set value: '" ++ key ++ "' is not a section."⟩

/-- The value that is stored for `value` in the place of `old`: the cast value, or the value
itself if it does not fit. -/
def stored (value old : Json) : Except SetError Json :=
  match castLike old value with
  | .ok v => .ok v
  | .error .unfit => .ok value
  | .error .infinite => .error .infinite
  | .error .tooLarge => .error .tooLarge

/-- The warnings about `value` in the place of `old`. -/
def warnings (path : Text) (old value : Json) : List Log.Entry :=
  match castLike old value with
  | .error .unfit => [unfitWarning path old value]
  | _ => []

/-- The member of an object that a change of the value under `keys` uses first. -/
def firstMember (keys : List Text) : Text := if keys.length = 1 then "get" else "setdefault"

/-- The value at a path is changed. -/
def set (config : Json) (path : Text) (value : Json) : Except SetError Change :=
  match config with
  | .object fields =>
    match modify (stored value) (keys path) fields with
    | .ok changed =>
      .ok (.stored (.object changed) (warnings path (lookup (keys path) config) value))
    | .error (.notSection key) => .ok (.refused (sectionError key))
    | .error (.replacement error) => .error error
  | config => .error (.noObject config.typeName (firstMember (keys path)))

end Componentry.Configuration
