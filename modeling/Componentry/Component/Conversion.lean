import Componentry.Component.Module
import Componentry.State.Inference

/-!
# Conversion

A document is converted by inferring its state, dividing its body into units, emitting the template
of each unit, and assembling the module.
-/

namespace Componentry

/-- What a conversion gives. -/
structure Conversion where
  /-- The name of the root component. -/
  name : Text
  /-- The units in document order. -/
  units : List ComponentUnit
  /-- The state fields in document order. -/
  fields : List Field
  /-- What the root component shows. -/
  slots : Text
  /-- The whole module. -/
  source : Text
  deriving Inhabited

/-- The number of units that have a control that is bound to the state. -/
def Conversion.statefulCount (c : Conversion) : Nat := c.units.countP (·.stateful)

namespace Node

mutual

/-- The numbers of a node and of the nodes below it that belong to the same unit: the roots of other
units are left out with all nodes below them. `top` says that the node is the root of the unit. -/
def ownUids (units : List (Int × Text)) (top : Int) : Node → List Int
  | ⟨uid, _, _, _, _, children⟩ =>
    if uid ≠ top && (units.lookup uid).isSome then [] else uid :: ownUidsAll units top children

/-- The numbers of some nodes and of the nodes below them that belong to the unit with the root
`top`. -/
def ownUidsAll (units : List (Int × Text)) (top : Int) : List Node → List Int
  | [] => []
  | node :: nodes => ownUids units top node ++ ownUidsAll units top nodes

end

end Node

namespace Conversion

/-- The names of units by the numbers of their roots. -/
def unitNames (claims : List Claim) : List (Int × Text) := claims.map fun c => (c.root.uid, c.name)

/-- The unit of a claim. -/
def unitOf (emitter : Template.Emitter) (claim : Claim) :
    Except Numeral.IntegerError ComponentUnit :=
  (emitter.emit claim.root).map fun body =>
    { name := claim.name
      rootUid := claim.root.uid
      body
      mounted := claim.mounted
      stateful := (claim.root.ownUids emitter.units claim.root.uid).any fun uid =>
        (Field.find? emitter.fields uid).isSome }

/-- The units of some claims. -/
def unitsOf (emitter : Template.Emitter) :
    List Claim → Except Numeral.IntegerError (List ComponentUnit)
  | [] => .ok []
  | claim :: claims => do
    let unit ← unitOf emitter claim
    let units ← unitsOf emitter claims
    .ok (unit :: units)

/-- The conversion of a document into the component `name`. -/
def ofDocument (settings : Settings) (name override : Text) (theme : Theme) (document : Document) :
    Except Numeral.IntegerError Conversion := do
  let fields := inferFields document.root
  let claims := decompose document.body [name]
  let emitter : Template.Emitter := ⟨fields, unitNames claims⟩
  let units ← unitsOf emitter claims
  let bundle := styleBundle document.styles override theme
  let mounted := (units.filter (·.mounted)).map fun unit => (unit.rootUid, unit.name)
  let slots ← Module.slots emitter mounted document.body.children
  let slots := Module.slotText slots
  let logic := Module.logic settings.scripts name document.scripts
  let source := Module.assemble name bundle fields units (Module.rootText name logic slots)
  .ok { name, units, fields, slots, source }

/-- The name of the component that an artifact of that name becomes. -/
def nameOf (settings : Settings) (artifact : Text) : Text :=
  let fallback :=
    if settings.defaultName.isEmpty then Settings.standardName else settings.defaultName
  Naming.componentName artifact fallback reservedNames

/-- Why a document is not converted. -/
inductive Failure
  /-- Its markup is refused. -/
  | rejected (rejection : Markup.Rejection)
  /-- An attribute has an integer of too many digits. -/
  | integer (error : Numeral.IntegerError)
  deriving DecidableEq, Repr

/-- The failure in words. -/
def Failure.message : Failure → Text
  | .rejected rejection => rejection.message
  | .integer error => error.message

/-- The conversion of a markup text. -/
def convert (settings : Settings) (markup artifact override : Text) (theme : Theme) :
    Except Failure Conversion :=
  match Document.parse settings.slash markup with
  | .error rejection => .error (.rejected rejection)
  | .ok document =>
    match ofDocument settings (nameOf settings artifact) override theme document with
    | .error error => .error (.integer error)
    | .ok conversion => .ok conversion

end Conversion

end Componentry
