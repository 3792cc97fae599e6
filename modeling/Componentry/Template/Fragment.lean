import Componentry.Numeral.Integer
import Componentry.Style.Declarations
import Componentry.Template.Escape
import Componentry.Template.Prop

/-!
# Props of an opening tag

A prop is a name with an expression. An attribute of a document gives at most one; a control that is
bound to the state gives two more.
-/

namespace Componentry.Template

/-- The expression of a prop. -/
inductive Expression
  /-- A text between quotation marks. -/
  | quoted (value : Text)
  /-- The constant that switches a prop on. -/
  | on
  /-- An integer. -/
  | integer (value : Int)
  /-- A style. -/
  | style (declarations : Declarations)
  /-- The placeholder of an event handler, which does nothing but name the event. -/
  | placeholder
  /-- The value of a state key. -/
  | state (key : Text)
  /-- The handler that stores what `source` of a control holds under a state key. -/
  | update (key source : Text)
  deriving DecidableEq, Repr

/-- A prop. -/
structure Fragment where
  /-- Its name. -/
  name : Text
  /-- Its expression. -/
  value : Expression
  deriving DecidableEq, Repr

/-- The expression inside its braces or quotation marks, for the prop `name`. -/
def Expression.render (name : Text) : Expression → Text
  | .quoted value => "\"" ++ escapeAttribute value ++ "\""
  | .on => "\x7btrue\x7d"
  | .integer n => "\x7b" ++ Text.ofInt n ++ "\x7d"
  | .style declarations => "\x7b" ++ declarations.objectLiteral ++ "\x7d"
  | .placeholder => "\x7b() => console.log(\"" ++ name ++ " triggered\")\x7d"
  | .state key => "\x7bstate." ++ key ++ "\x7d"
  | .update key source => "\x7b(e) => update(\"" ++ key ++ "\", e.target." ++ source ++ ")\x7d"

/-- The text of a prop. -/
def Fragment.render (f : Fragment) : Text := f.name ++ "=" ++ f.value.render f.name

/-- A value switches the attribute `name` on: it is empty, `true` or the attribute's own name, in
any case and with any blanks around. -/
def isTruthyFlag (name value : Text) : Bool :=
  let lowered := (Text.trim value).lower
  lowered = [] || lowered = "true" || lowered = name.lower

/-- A text is a decimal number with perhaps a minus sign before it. -/
def isInteger (t : Text) : Bool :=
  match t with
  | '-' :: digits => !digits.isEmpty && digits.all isDecimalDigit
  | digits => !digits.isEmpty && digits.all isDecimalDigit

/-- The expression of the prop `prop` that the attribute `name` with the value `value` becomes, if
it is not left out. -/
def expression? (name prop value : Text) : Except Numeral.IntegerError (Option Expression) :=
  if prop = "style" then
    let declarations := Declarations.parse value
    .ok (if declarations.isEmpty then none else some (.style declarations))
  else if isEventName prop then .ok (some .placeholder)
  else if booleanProps.contains prop then
    .ok (if isTruthyFlag name value then some .on else none)
  else if value.isEmpty then .ok none
  else if numericProps.contains prop && isInteger (Text.trim value) then
    (Numeral.readInteger (Text.trim value)).map fun n => some (.integer n)
  else .ok (some (.quoted value))

/-- The prop that an attribute becomes, if any. What a bound control gets from its state is left
out, and so is the selection of an option, as every selection is bound. -/
def fragment? (name value : Text) (bound : Bool) (tag : Text) :
    Except Numeral.IntegerError (Option Fragment) :=
  if !hasProp name then .ok none
  else
    let prop := propName name
    if bound && controlledProps.contains prop then .ok none
    else if tag = "option" && prop = "selected" then .ok none
    else (expression? name prop value).map fun expression => expression.map (⟨prop, ·⟩)

end Componentry.Template
