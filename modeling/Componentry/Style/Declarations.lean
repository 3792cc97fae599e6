import Componentry.Json.Literal
import Componentry.Naming
import Componentry.Text.Blank
import Componentry.Text.Casing

/-!
# Style declarations

The value of a `style` attribute as a map from properties to values, in the order in which the
properties were first declared, and its object literal.
-/

namespace Componentry

/-- Declared properties with their values. -/
abbrev Declarations := List (Text × Text)

namespace Declarations

/-- Declarations in which `property` has the value `value`: in its place if it is declared, at the
end if not. -/
def put (property value : Text) : Declarations → Declarations
  | [] => [(property, value)]
  | (p, v) :: declarations =>
    if p = property then (p, value) :: declarations else (p, v) :: put property value declarations

/-- The name under which a property is written. Custom properties keep theirs; others are in lower
case and lose their hyphens, and the vendor prefix `-ms-` does not start with a capital. -/
def propertyName (key : Text) : Text :=
  if Text.startsWith key "--" then key
  else
    match Text.lower key with
    | '-' :: 'm' :: 's' :: '-' :: rest => Naming.camelCase ('m' :: 's' :: '-' :: rest)
    | key => Naming.camelCase key

/-- The property and the value that a segment declares, if both are there and a colon is between
them. -/
def declaration? (segment : Text) : Option (Text × Text) :=
  match Text.cut? ':' segment with
  | none => none
  | some (key, value) =>
    let key := Text.trim key
    let value := Text.trim value
    if key.isEmpty || value.isEmpty then none else some (propertyName key, value)

/-- The declarations of a style. Segments that declare nothing are skipped; a repeated property
keeps its place and takes the last value. -/
def parse (style : Text) : Declarations :=
  ((Text.splitOn ';' style).filterMap declaration?).foldl
    (fun declarations (property, value) => put property value declarations) []

/-- The entry of a declaration in an object literal. -/
def entry (declaration : Text × Text) : Text :=
  Json.literal declaration.1 ++ ": " ++ Json.literal declaration.2

/-- The declarations as an object literal. -/
def objectLiteral (declarations : Declarations) : Text :=
  ['\x7b'] ++ List.intercalate [',', ' '] (declarations.map entry) ++ ['\x7d']

end Declarations

end Componentry
