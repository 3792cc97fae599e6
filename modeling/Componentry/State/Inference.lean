import Componentry.Markup.Node
import Componentry.Naming
import Componentry.State.Field
import Componentry.Template.Fragment

/-!
# Inferring state

The state fields of a document, one for each control that can be bound, in document order. Keys come
from the names of the controls and are kept apart by counting.
-/

namespace Componentry

namespace Control

/-- The types of inputs that hold a truth value. -/
def booleanTypes : List Text := ["checkbox", "radio"]

/-- The types of inputs that hold a number. -/
def numberTypes : List Text := ["number", "range"]

/-- The types of inputs without a value to edit. -/
def unboundTypes : List Text := ["file", "submit", "button", "reset", "image"]

/-- The value of an attribute, or the empty text. -/
def valueOf (name : Text) (attributes : List (Text × Text)) : Text :=
  (attribute? name attributes).getD []

/-- The type of an input. -/
def inputType (attributes : List (Text × Text)) : Text :=
  let type := valueOf "type" attributes
  (Text.trim (if type.isEmpty then "text" else type)).lower

/-- An element is a control that can be bound to the state. -/
def isBindable (node : Node) : Bool :=
  if node.hasTag "input" then !unboundTypes.contains (inputType node.attributes)
  else node.hasTag "textarea" || node.hasTag "select"

/-- The value of an option, which is its text if it has no other. -/
def optionValue (option : Node) : Text :=
  match option.attribute? "value" with
  | some value => value
  | none => Text.trim option.textContent

/-- The value of a selection: that of the first option that is selected, or of the first one. -/
def selectedValue (node : Node) : Text :=
  let options := node.elements.filter (·.hasTag "option")
  match options.find? fun option => (option.attribute? "selected").isSome with
  | some option => optionValue option
  | none => (options.head?.map optionValue).getD []

/-- The value that a control starts with. -/
def initial (node : Node) : Initial :=
  if node.hasTag "input" then
    let type := inputType node.attributes
    if booleanTypes.contains type then
      .flag ((node.attribute? "checked").any (Template.isTruthyFlag "checked"))
    else if numberTypes.contains type then
      match node.attribute? "value" with
      | some value => .ofNumeral value
      | none => .integer 0
    else .text (valueOf "value" node.attributes)
  else
    match node.attribute? "value" with
    | some value => .text value
    | none => .text (if node.hasTag "textarea" then node.textContent else selectedValue node)

/-- What a control without a name is called; `ordinal` counts the controls of the document. -/
def defaultName (ordinal : Nat) : Text := "field_" ++ Text.ofNat ordinal

/-- What the document calls a control: its `name`, or else its `id`. -/
def givenName (ordinal : Nat) (attributes : List (Text × Text)) : Text :=
  let name := Text.trim (valueOf "name" attributes)
  let id := Text.trim (valueOf "id" attributes)
  if !name.isEmpty then name else if !id.isEmpty then id else defaultName ordinal

/-- The key that a control would like to have. -/
def baseKey (ordinal : Nat) (name : Text) : Text :=
  let key := Naming.identifier name
  if key.isEmpty then Naming.identifier (defaultName ordinal) else key

end Control

/-- What has been inferred so far. -/
structure Inference where
  /-- The number of controls. -/
  count : Nat
  /-- The keys that are taken. -/
  taken : List Text
  /-- The fields. -/
  fields : List Field

namespace Inference

/-- No control has been met. -/
def empty : Inference := ⟨0, [], []⟩

/-- An element is met, which has a field if it is a control that can be bound. -/
def step (s : Inference) (node : Node) : Inference :=
  if Control.isBindable node then
    let ordinal := s.count + 1
    let name := Control.givenName ordinal node.attributes
    let key := Naming.unique s.taken (Control.baseKey ordinal name) []
    let field := ⟨name, key, Control.initial node, node.uid⟩
    ⟨ordinal, key :: s.taken, Field.put field s.fields⟩
  else s

end Inference

/-- The state fields of the elements that are reached from a node, in document order. -/
def inferFields (root : Node) : List Field :=
  (root.elements.foldl Inference.step Inference.empty).fields

end Componentry
