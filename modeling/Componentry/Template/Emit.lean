import Componentry.State.Field
import Componentry.Template.Fragment
import Componentry.Unit.Landmark

/-!
# Emitting templates

The template text of a node and all nodes below it. Work that is left is kept in a list, so that
documents of any depth can be emitted; the list shrinks in size with every step.
-/

namespace Componentry.Template

/-- The elements without content. -/
def voidTags : List Text := [
  "img", "input", "br", "hr", "meta", "link", "area", "base", "col", "embed", "param", "source",
  "track", "wbr"]

/-- The tags of vector graphics, which have capitals that markup does not keep. -/
def casedTags : List (Text × Text) := Text.pairs [
  ("altglyph", "altGlyph"), ("animatemotion", "animateMotion"),
  ("animatetransform", "animateTransform"), ("clippath", "clipPath"), ("feblend", "feBlend"),
  ("fecolormatrix", "feColorMatrix"), ("fecomposite", "feComposite"),
  ("fedropshadow", "feDropShadow"), ("feflood", "feFlood"), ("fegaussianblur", "feGaussianBlur"),
  ("femerge", "feMerge"), ("femergenode", "feMergeNode"), ("feoffset", "feOffset"),
  ("feturbulence", "feTurbulence"), ("foreignobject", "foreignObject"),
  ("lineargradient", "linearGradient"), ("radialgradient", "radialGradient"),
  ("textpath", "textPath")]

/-- The tag as it is written in a template. An element without a tag is written with a word that
says so. -/
def tagName : Option Text → Text
  | some tag => (casedTags.lookup tag).getD tag
  | none => "None"

/-- The use of a unit. -/
def reference (name : Text) : Text :=
  "<" ++ name ++ " state=\x7bstate\x7d update=\x7bupdate\x7d />"

/-- The props that tie a control to its state. -/
def binding (field : Field) : List Fragment :=
  if field.initial.isFlag then
    [⟨"checked", .state field.key⟩, ⟨"onChange", .update field.key "checked"⟩]
  else [⟨"value", .state field.key⟩, ⟨"onChange", .update field.key "value"⟩]

/-- What is known of the document while its templates are emitted. -/
structure Emitter where
  /-- The state fields of its controls. -/
  fields : List Field
  /-- The names of its units by the numbers of their roots. -/
  units : List (Int × Text)

namespace Emitter

/-- An element is written without content: it has none, or it is a text area that is bound to the
state. -/
def isChildless (e : Emitter) (node : Node) : Bool :=
  node.tag?.any voidTags.contains ||
    (node.hasTag "textarea" && (Field.find? e.fields node.uid).isSome)

/-- The props that attributes become. -/
def attributeFragments (bound : Bool) (tag : Text) :
    List (Text × Text) → Except Numeral.IntegerError (List Fragment)
  | [] => .ok []
  | (name, value) :: attributes => do
    let fragment ← fragment? name value bound tag
    let fragments ← attributeFragments bound tag attributes
    .ok (fragment.toList ++ fragments)

/-- The props of an element. -/
def fragments (e : Emitter) (node : Node) : Except Numeral.IntegerError (List Fragment) :=
  let field := Field.find? e.fields node.uid
  (attributeFragments field.isSome (node.tag?.getD []) node.attributes).map
    (· ++ (field.map binding).getD [])

/-- The opening tag of an element, which is closed at once if the element is written without
content. -/
def openTag (e : Emitter) (node : Node) : Except Numeral.IntegerError Text :=
  (e.fragments node).map fun fragments =>
    "<" ++ tagName node.tag? ++ fragments.flatMap (fun f => ' ' :: f.render) ++
      (if e.isChildless node then [' ', '/', '>'] else ['>'])

/-- The closing tag of an element. -/
def closeTag (tag? : Option Text) : Text := "</" ++ tagName tag? ++ ">"

/-- Something that is left to be emitted. -/
inductive Work
  /-- A node with all nodes below it. -/
  | node (n : Node)
  /-- The closing tag of an element. -/
  | close (tag? : Option Text)

/-- The number of steps that emitting takes at most. -/
def Work.cost : Work → Nat
  | .node n => n.cost
  | .close _ => 1

/-- The number of steps that is left at most. -/
def cost : List Work → Nat
  | [] => 0
  | w :: work => w.cost + cost work

@[simp]
theorem cost_cons (w : Work) (work : List Work) : cost (w :: work) = w.cost + cost work := rfl

@[simp]
theorem cost_append (work more : List Work) : cost (work ++ more) = cost work + cost more := by
  induction work with
  | nil => simp [cost]
  | cons w work ih => simp [ih, Nat.add_assoc]

@[simp]
theorem cost_map_node (nodes : List Node) : cost (nodes.map .node) = Node.costAll nodes := by
  induction nodes with
  | nil => rfl
  | cons node nodes ih => simp [Work.cost, Node.costAll, ih]

theorem Work.cost_pos (w : Work) : 0 < w.cost := by
  cases w with
  | node n => exact n.cost_pos
  | close tag => simp [Work.cost]

/-- The text of the work that is left, after the pieces `done`, the last one first. The unit that is
emitted has the number `root`; the root of another unit is replaced by the use of that unit. -/
def run (e : Emitter) (root : Int) (done : List Text) (work : List Work) :
    Except Numeral.IntegerError Text :=
  match work with
  | [] => .ok done.reverse.flatten
  | .close tag? :: work => run e root (closeTag tag? :: done) work
  | .node node :: work =>
    match node.kind with
    | .text => run e root (escapeText (Text.trim node.content) :: done) work
    | .comment => run e root (comment node.content :: done) work
    | .element =>
      match if node.uid = root then none else e.units.lookup node.uid with
      | some name => run e root (reference name :: done) work
      | none =>
        if node.isDropped then run e root done work
        else
          match e.openTag node with
          | .error error => .error error
          | .ok opening =>
            if e.isChildless node then run e root (opening :: done) work
            else run e root (opening :: done) (node.children.map .node ++ .close node.tag? :: work)
termination_by cost work
decreasing_by
  all_goals simp [Work.cost, Node.cost_eq]
  all_goals omega

/-- The template text of a node and of what is below it; nothing is below texts and comments. -/
def emit (e : Emitter) (root : Node) : Except Numeral.IntegerError Text :=
  run e root.uid [] [.node root]

/-- The template texts of some nodes, without those that have none. -/
def emitInline (e : Emitter) : List Node → Except Numeral.IntegerError (List Text)
  | [] => .ok []
  | node :: nodes => do
    let text ← e.emit node
    let texts ← emitInline e nodes
    .ok (if text.isEmpty then texts else text :: texts)

end Emitter

end Componentry.Template
