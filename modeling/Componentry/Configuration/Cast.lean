import Componentry.Json.Printer
import Componentry.Numeral.Integer
import Componentry.Text.Blank
import Componentry.Text.Casing

/-!
# Casting values

A new value of a setting is cast to the type of the value that it replaces, if that is possible.
-/

namespace Componentry.Configuration

/-- The texts that stand for true. -/
def trueTexts : List Text := ["1", "true", "yes", "on"]

/-- The texts that stand for false. -/
def falseTexts : List Text := ["0", "false", "no", "off"]

/-- Why a value is not cast. -/
inductive CastError
  /-- The value does not fit the type. -/
  | unfit
  /-- The value is infinite and an integer is wanted. -/
  | infinite
  /-- The value is too large an integer for a number of the floating-point format. -/
  | tooLarge
  deriving DecidableEq, Repr

/-- A truth value of the text of a value, in any case and with any blanks around. -/
def castToBool (value : Json) : Except CastError Json :=
  match value with
  | .bool b => .ok (.bool b)
  | value =>
    let lowered := (Text.trim value.display).lower
    if trueTexts.contains lowered then .ok (.bool true)
    else if falseTexts.contains lowered then .ok (.bool false)
    else .error .unfit

/-- An integer. Fractions lose their fractional part. -/
def castToInt : Json → Except CastError Json
  | .bool b => .ok (.bool b)
  | .int n => .ok (.int n)
  | .float (.infinite _) => .error .infinite
  | .float x =>
    match x.truncate? with
    | some n => .ok (.int n)
    | none => .error .unfit
  | .string t =>
    match Numeral.readInteger t with
    | .ok n => .ok (.int n)
    | .error _ => .error .unfit
  | _ => .error .unfit

/-- A number of the floating-point format. -/
def castToFloat : Json → Except CastError Json
  | .float x => .ok (.float x)
  | .bool b => .ok (.float (Numeral.Double.ofInt (if b then 1 else 0)))
  | .int n =>
    match Numeral.Double.ofInt n with
    | .infinite _ => .error .tooLarge
    | x => .ok (.float x)
  | .string t =>
    match Numeral.Double.read? t with
    | some x => .ok (.float x)
    | none => .error .unfit
  | _ => .error .unfit

/-- A list: the characters of a text or the keys of an object. -/
def castToArray : Json → Except CastError Json
  | .array elements => .ok (.array elements)
  | .string t => .ok (.array (t.map fun c => .string [c]))
  | .object fields => .ok (.array (fields.map fun (key, _) => key.value))
  | _ => .error .unfit

/-- The key and value that an element of a list stands for: the two characters of a text, the two
elements of a list of which the first can be a key, or the two keys of an object. -/
def pair? : Json → Option (Json.Key × Json)
  | .string [key, value] => some (.text [key], .string [value])
  | .array [key, value] => key.key?.map fun key => (key, value)
  | .object [(key, _), (value, _)] => some (key, value.value)
  | _ => none

/-- An object: pairs of a list, or nothing for the empty text. -/
def castToObject : Json → Except CastError Json
  | .object fields => .ok (.object fields)
  | .string [] => .ok (.object [])
  | .array elements =>
    match elements.mapM pair? with
    | some pairs => .ok (.object (Json.ofPairs pairs))
    | none => .error .unfit
  | _ => .error .unfit

/-- A value in the type of `old`. An absent value has no type. -/
def castLike (old value : Json) : Except CastError Json :=
  match old with
  | .null => .ok value
  | .bool _ => castToBool value
  | .int _ => castToInt value
  | .float _ => castToFloat value
  | .string _ => .ok (.string value.display)
  | .array _ => castToArray value
  | .object _ => castToObject value

end Componentry.Configuration
