import Componentry.Unit.Landmark

/-!
# Decomposition

The body of a document is divided into units. Landmarks are claimed first, at any depth but not
inside one another; then the elements at the top of the body that are no landmarks. Each unit gets a
name that no other has.
-/

namespace Componentry

/-- The names that every generated module uses itself. -/
def reservedNames : List Text := ["React", "Fragment", "GLOBAL_STYLES", "INITIAL_STATE"]

mutual

/-- The outermost landmarks that are reached from a node through elements, without those in dropped
elements. -/
def landmarks : Node → List Node
  | ⟨uid, kind, tag?, attributes, content, children⟩ =>
    let node : Node := ⟨uid, kind, tag?, attributes, content, children⟩
    if !node.isElement || node.isDropped then []
    else if node.isLandmark then [node]
    else landmarksAll children

/-- The outermost landmarks that are reached from some nodes through elements, without those in
dropped elements. -/
def landmarksAll : List Node → List Node
  | [] => []
  | node :: nodes => landmarks node ++ landmarksAll nodes

end

/-- The nodes that become roots of units after the landmarks: elements of `nodes` that are not
dropped and whose number is not claimed yet. -/
def unclaimed (claimed : List Int) : List Node → List Node
  | [] => []
  | node :: nodes =>
    if !node.isElement || node.isDropped || claimed.contains node.uid then unclaimed claimed nodes
    else node :: unclaimed (node.uid :: claimed) nodes

/-- The roots of the units of a body, in the order in which they are claimed. -/
def unitRoots (body : Node) : List Node :=
  let first := landmarksAll body.children
  first ++ unclaimed (first.map Node.uid) body.children

/-- A part of the body that becomes a component of its own. -/
structure Claim where
  /-- The name of the unit. -/
  name : Text
  /-- The root of the unit. -/
  root : Node
  /-- The root is at the top of the body. -/
  mounted : Bool
  deriving Inhabited

/-- The claims of `roots`, counted from `ordinal`, where the names `taken` are in use and `top` are
the numbers of the nodes at the top of the body. -/
def claims (top : List Int) (taken : List Text) (ordinal : Nat) : List Node → List Claim
  | [] => []
  | root :: roots =>
    let name := Naming.unique taken (root.unitBaseName ++ Text.ofNat ordinal) "_"
    ⟨name, root, top.contains root.uid⟩ :: claims top (name :: taken) (ordinal + 1) roots

/-- The units of a body in document order, none of which has one of the names `reserved`. -/
def decompose (body : Node) (reserved : List Text) : List Claim :=
  (claims (body.children.map Node.uid) (reservedNames ++ reserved) 1 (unitRoots body)).mergeSort
    fun a b => a.root.uid ≤ b.root.uid

end Componentry
