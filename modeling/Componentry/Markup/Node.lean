import Componentry.Text.Basic

/-!
# Document nodes

The nodes of a document. Each has a number that stands for it in everything that later stages record
about it; reading numbers them in document order. Reading gives tags, attributes and children to
elements only, and content to texts and comments only. Trees that come from elsewhere may have them
anywhere, so that every stage says which nodes it looks at.
-/

namespace Componentry

/-- What a node is. -/
inductive NodeKind
  /-- An element. -/
  | element
  /-- Running text. -/
  | text
  /-- A comment. -/
  | comment
  deriving DecidableEq, Repr, Inhabited

/-- A node of a document. -/
structure Node where
  /-- The number of the node. -/
  uid : Int
  /-- What it is. -/
  kind : NodeKind
  /-- The tag of an element. -/
  tag? : Option Text
  /-- The attributes of an element, in the order in which they were written. -/
  attributes : List (Text × Text)
  /-- What a text or a comment says. -/
  content : Text
  /-- The nodes directly below it. -/
  children : List Node
  deriving Inhabited

/-- The value of the first attribute of a name. -/
def attribute? (name : Text) (attributes : List (Text × Text)) : Option Text :=
  attributes.lookup name

namespace Node

/-- An element with a tag. -/
def element (uid : Int) (tag : Text) (attributes : List (Text × Text)) (children : List Node) :
    Node :=
  ⟨uid, .element, some tag, attributes, [], children⟩

/-- A text or a comment. -/
def leaf (kind : NodeKind) (uid : Int) (content : Text) : Node := ⟨uid, kind, none, [], content, []⟩

/-- A node is an element. -/
def isElement (node : Node) : Bool := node.kind = .element

/-- The value of the first attribute of a name. -/
def attribute? (node : Node) (name : Text) : Option Text :=
  Componentry.attribute? name node.attributes

/-- A node has that tag. -/
def hasTag (node : Node) (tag : Text) : Bool := node.tag? = some tag

mutual

/-- A node and all nodes below it, in document order. -/
def subtree : Node → List Node
  | ⟨uid, kind, tag?, attributes, content, children⟩ =>
    ⟨uid, kind, tag?, attributes, content, children⟩ :: subtreeAll children

/-- Some nodes and all nodes below them, in document order. -/
def subtreeAll : List Node → List Node
  | [] => []
  | node :: nodes => subtree node ++ subtreeAll nodes

end

theorem subtree_eq (node : Node) : node.subtree = node :: subtreeAll node.children := by
  cases node
  rfl

mutual

/-- The elements that are reached from a node through elements alone, in document order. -/
def elements : Node → List Node
  | ⟨uid, kind, tag?, attributes, content, children⟩ =>
    if kind = .element then
      ⟨uid, kind, tag?, attributes, content, children⟩ :: elementsAll children
    else []

/-- The elements that are reached from some nodes through elements alone, in document order. -/
def elementsAll : List Node → List Node
  | [] => []
  | node :: nodes => elements node ++ elementsAll nodes

end

mutual

/-- The number of steps that it takes to go through a node and all nodes below it, where each counts
once when it is entered and once when it is left. -/
def cost : Node → Nat
  | ⟨_, _, _, _, _, children⟩ => costAll children + 2

/-- The number of steps that it takes to go through some nodes and all nodes below them. -/
def costAll : List Node → Nat
  | [] => 0
  | node :: nodes => cost node + costAll nodes

end

theorem cost_eq (node : Node) : node.cost = costAll node.children + 2 := by
  cases node
  rfl

theorem cost_pos (node : Node) : 0 < node.cost := by simp [cost_eq]

/-- The text of a node and all nodes below it. -/
def textContent (node : Node) : Text :=
  node.subtree.flatMap fun n => if n.kind = .text then n.content else []

end Node

end Componentry
