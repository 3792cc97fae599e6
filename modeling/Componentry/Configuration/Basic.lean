import Componentry.Json.Value

/-!
# Configuration

A configuration is a value whose sections hold further values. A dotted path leads from the whole
configuration to one of them. An update makes the sections that it needs, and leaves everything as
it was if something on its way is no section.
-/

namespace Componentry.Configuration

/-- The keys of a dotted path. There is at least one, and a key may be empty. -/
def keys (path : Text) : List Text := Text.splitOn '.' path

/-- The value that keys lead to, where what is missing counts as absent. -/
def lookup : List Text → Json → Json
  | [], value => value
  | key :: keys, .object fields => lookup keys ((Json.find? key fields).getD .null)
  | _ :: _, _ => .null

/-- The value at a path, unless it is missing or absent. -/
def get? (config : Json) (path : Text) : Option Json :=
  match lookup (keys path) config with
  | .null => none
  | value => some value

/-- The value at a path, or `fallback`. -/
def get (config : Json) (path : Text) (fallback : Json) : Json := (get? config path).getD fallback

/-- Why an update does not come about. -/
inductive Obstacle (ε : Type)
  /-- What is under this key on the way is no section. -/
  | notSection (key : Text)
  /-- The new value could not be made. -/
  | replacement (error : ε)

/-- Fields in which the value that keys lead to is replaced. `replace` makes the new value from the
old one, which is absent if there is none; missing sections are made. -/
def modify {ε : Type} (replace : Json → Except ε Json) :
    List Text → Json.Fields → Except (Obstacle ε) Json.Fields
  | [], fields => .ok fields
  | [key], fields =>
    match replace ((Json.find? key fields).getD .null) with
    | .ok value => .ok (Json.put key value fields)
    | .error error => .error (.replacement error)
  | key :: keys, fields =>
    match Json.find? key fields with
    | none => (modify replace keys []).map fun inner => Json.put key (.object inner) fields
    | some (.object section_) =>
      (modify replace keys section_).map fun inner => Json.put key (.object inner) fields
    | some _ => .error (.notSection key)

end Componentry.Configuration
