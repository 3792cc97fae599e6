import Componentry.Json.Printer

/-!
# Validation errors

What is reported when values do not fit the fields that they are given for: one issue for each
field, in the order of the fields.
-/

namespace Componentry

/-- A value that does not fit its field. -/
structure Issue where
  /-- The field. -/
  field : Text
  /-- The kind of the issue. -/
  kind : Text
  /-- The issue in words. -/
  message : Text
  /-- The value. -/
  input : Json
  deriving Inhabited

/-- Values that do not fit the fields of a record. -/
structure ValidationError where
  /-- The name of the record. -/
  record : Text
  /-- The issues, of which there is at least one. -/
  issues : List Issue
  deriving Inhabited

namespace ValidationError

/-- The longest beginning of a text that takes at most `limit` bytes. -/
def takeBytes (limit : Nat) : Text → Text
  | [] => []
  | c :: rest => if c.utf8Size ≤ limit then c :: takeBytes (limit - c.utf8Size) rest else []

/-- A text of at most fifty bytes, or else its first 25 and its last 24 bytes. -/
def abridged (t : Text) : Text :=
  if Text.byteCount t ≤ 50 then t else takeBytes 25 t ++ "..." ++ (takeBytes 24 t.reverse).reverse

/-- The number of issues in words. -/
def headline (e : ValidationError) : Text :=
  let count := e.issues.length
  Text.ofNat count ++ (if count = 1 then " validation error for " else " validation errors for ") ++
    e.record

/-- An issue on lines of its own. `guide` is where the kinds of issues are explained. -/
def issueText (guide : Text) (i : Issue) : Text :=
  "\n" ++ i.field ++ "\n  " ++ i.message ++ " [type=" ++ i.kind ++ ", input_value=" ++
    abridged i.input.shown ++ ", input_type=" ++ i.input.typeName ++
    "]\n    For further information visit " ++ guide ++ i.kind

/-- All issues in words. -/
def message (guide : Text) (e : ValidationError) : Text :=
  e.headline ++ e.issues.flatMap (issueText guide)

end ValidationError

end Componentry
