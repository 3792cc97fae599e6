import Componentry.Json.Literal
import Componentry.Numeral.Shortest

/-!
# State fields

A component keeps what its controls hold in state fields. A field knows the control that it belongs
to, the key under which it is kept and the value that it starts with.
-/

namespace Componentry

/-- The value that a state field starts with. -/
inductive Initial
  /-- A truth value. -/
  | flag (value : Bool)
  /-- An integer. -/
  | integer (value : Int)
  /-- A number that is no integer. -/
  | decimal (value : Numeral.Double)
  /-- A text. -/
  | text (value : Text)
  deriving DecidableEq, Repr, Inhabited

namespace Initial

/-- The kind of a field that starts with the value. -/
def kind : Initial → Text
  | .flag _ => "boolean"
  | .integer _ => "number"
  | .decimal _ => "number"
  | .text _ => "string"

/-- The field holds a truth value. -/
def isFlag : Initial → Bool
  | .flag _ => true
  | _ => false

/-- The value as a literal of the generated module. -/
def literal : Initial → Text
  | .flag true => "true"
  | .flag false => "false"
  | .integer n => Text.ofInt n
  | .decimal x => x.toText
  | .text t => Json.literal t

/-- The value in a listing of fields. -/
def shown : Initial → Text
  | .flag true => "True"
  | .flag false => "False"
  | .integer n => Text.ofInt n
  | .decimal x => x.toText
  | .text t => t.quoted

/-- The number that a control's value writes, and zero if it writes none that is finite. -/
def ofNumeral (t : Text) : Initial :=
  match Numeral.Double.read? (Text.trim t) with
  | some (.finite negative m e) =>
    let x := Numeral.Double.finite negative m e
    match x.toInt? with
    | some n => .integer n
    | none => .decimal x
  | _ => .integer 0

end Initial

/-- A state field. -/
structure Field where
  /-- The name by which the document calls the control. -/
  name : Text
  /-- The key under which the field is kept. -/
  key : Text
  /-- The value that it starts with. -/
  initial : Initial
  /-- The number of the control. -/
  uid : Int
  deriving DecidableEq, Repr, Inhabited

namespace Field

/-- The field of a control. -/
def find? (fields : List Field) (uid : Int) : Option Field := fields.find? (·.uid = uid)

/-- Fields in which a control has the field `field`: in its place if it has one, at the end if
not. -/
def put (field : Field) : List Field → List Field
  | [] => [field]
  | f :: fields => if f.uid = field.uid then field :: fields else f :: put field fields

end Field

end Componentry
