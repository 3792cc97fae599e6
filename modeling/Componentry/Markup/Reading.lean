import Componentry.Markup.Node
import Componentry.Markup.Source

/-!
# Reading a source tree

The nodes of a document are made from a source tree in one pass, together with what is taken from
the tree as a whole: its title, its style sheets and its scripts. Source nodes wait in a list, the
next one first, so that it does not matter how deep the tree is. One that becomes a node takes the
next number and is put down with the number of its parent; its children go to the front of the list.
Sections of literal text, instructions, and all that is inside scripts and style sheets have no
node.
-/

namespace Componentry.Markup

/-! ### Elements -/

/-- An element with what surrounds it. -/
structure Visit where
  /-- The element's name. -/
  name : Text
  /-- The element's attributes. -/
  attributes : List (Text × AttributeValue)
  /-- The element's children. -/
  children : List Source
  /-- The element is inside one whose text is no part of the document's text. -/
  muted : Bool

/-- The elements whose text is no part of the document's text. -/
def mutedNames : List Text := ["rt", "rp", "style", "script", "template"]

mutual

/-- The texts in a source tree, without the blanks around them and without those that are blank
throughout. -/
def trimmedTexts (muted : Bool) : Source → List Text
  | .element name _ children => trimmedTextsAll (muted || mutedNames.contains name) children
  | .text content => if muted || content.trim.isEmpty then [] else [content.trim]
  | .literal content => if content.trim.isEmpty then [] else [content.trim]
  | _ => []

/-- The texts in source trees, without the blanks around them and without those that are blank
throughout. -/
def trimmedTextsAll (muted : Bool) : List Source → List Text
  | [] => []
  | source :: sources => trimmedTexts muted source ++ trimmedTextsAll muted sources

end

/-- The text of a node that is not an element. -/
def leafText : Source → Text
  | .element .. => []
  | .text content => content
  | .comment content => content
  | .literal content => content
  | .instruction content => content

namespace Visit

/-- The text of an element as a title. -/
def titleText (v : Visit) : Text :=
  (trimmedTextsAll (v.muted || mutedNames.contains v.name) v.children).flatten

/-- The text of an element whose content is taken as it stands. -/
def rawText (v : Visit) : Text := v.children.flatMap leafText

/-- The value of an attribute, empty if there is none. -/
def valueOf (v : Visit) (name : Text) : Text :=
  ((v.attributes.lookup name).map AttributeValue.joined).getD []

/-- The text of a style sheet. -/
def style? (v : Visit) : Option Text := if v.name.lower = "style" then some v.rawText else none

/-- The types of scripts that are run. -/
def scriptTypes : List Text := ["", "text/javascript", "application/javascript", "module"]

/-- The text of a script that is run: one whose text is in the document and not blank, and that has
one of the types of scripts. -/
def script? (v : Visit) : Option Text :=
  if v.name.lower = "script" && (v.valueOf "src").isEmpty &&
      scriptTypes.contains (v.valueOf "type").trim.lower && !v.rawText.trim.isEmpty then
    some v.rawText
  else none

/-- The text of a title that is not blank. -/
def title? (v : Visit) : Option Text :=
  if v.name.lower = "title" && !v.titleText.isEmpty then some v.titleText else none

end Visit

/-! ### Nodes -/

/-- The attributes of an element as its node has them. -/
def nodeAttributes (attributes : List (Text × AttributeValue)) : List (Text × Text) :=
  attributes.map fun (name, value) => (name.lower, value.joined)

/-- A node with the number of its parent. -/
structure Row where
  /-- The number of the parent. -/
  parent : Int
  /-- The node. -/
  node : Node
  deriving Inhabited

/-- A source node that is still to be read. -/
structure Pending where
  /-- The source node. -/
  source : Source
  /-- The number of the node that it is directly below. -/
  parent : Int
  /-- It is inside an element whose text is no part of the document's text. -/
  muted : Bool

mutual

/-- The number of source nodes in a source tree. -/
def Source.cost : Source → Nat
  | .element _ _ children => Source.costAll children + 1
  | .text _ => 1
  | .comment _ => 1
  | .literal _ => 1
  | .instruction _ => 1

/-- The number of source nodes in source trees. -/
def Source.costAll : List Source → Nat
  | [] => 0
  | source :: sources => Source.cost source + Source.costAll sources

end

/-- The number of source nodes in what is still to be read. -/
def cost (pending : List Pending) : Nat := Source.costAll (pending.map Pending.source)

theorem Source.costAll_append (sources more : List Source) :
    Source.costAll (sources ++ more) = Source.costAll sources + Source.costAll more := by
  induction sources with
  | nil => simp [Source.costAll]
  | cons source sources ih => simp [Source.costAll, ih, Nat.add_assoc]

/-- What has been read. -/
structure Reading where
  /-- The number of the next node. -/
  next : Nat
  /-- The nodes, each without the nodes below it, the last one first. -/
  rows : List Row
  /-- The number of the first `body` element. -/
  body? : Option Int
  /-- The number of the first `html` element. -/
  html? : Option Int
  /-- The text of the first title that is not blank. -/
  title : Text
  /-- The texts of the style sheets. -/
  styles : List Text
  /-- The texts of the scripts that are run. -/
  scripts : List Text

namespace Reading

/-- Nothing has been read, and zero is the number of the root. -/
def start : Reading := ⟨1, [], none, none, [], [], []⟩

/-- A node takes the next number. -/
def add (r : Reading) (parent : Int) (node : Node) : Reading :=
  { r with next := r.next + 1, rows := ⟨parent, node⟩ :: r.rows }

/-- An element is noted if it is the first one that can be the body, or a title. -/
def note (r : Reading) (uid : Int) (v : Visit) : Reading :=
  if v.name.lower = "body" && r.body?.isNone then { r with body? := some uid }
  else if v.name.lower = "html" && r.html?.isNone then { r with html? := some uid }
  else if v.name.lower = "title" && r.title.isEmpty then { r with title := v.titleText }
  else r

/-- The text of a style sheet or of a script that is run is taken. -/
def collect (r : Reading) (v : Visit) : Reading :=
  { r with styles := r.styles ++ v.style?.toList, scripts := r.scripts ++ v.script?.toList }

/-- A source node is read: what has been read then, and what is below it to be read next. -/
def step (r : Reading) (p : Pending) : Reading × List Pending :=
  match p.source with
  | .element name attributes children =>
    let v : Visit := ⟨name, attributes, children, p.muted⟩
    let node := Node.element r.next name.lower (nodeAttributes attributes) []
    let noted := (r.add p.parent node).note r.next v
    if rawNames.contains name.lower then (noted.collect v, [])
    else
      (noted, children.map fun child => ⟨child, r.next, p.muted || mutedNames.contains name⟩)
  | .text content => (r.add p.parent (.leaf .text r.next content), [])
  | .comment content => (r.add p.parent (.leaf .comment r.next content), [])
  | .literal _ => (r, [])
  | .instruction _ => (r, [])

theorem cost_step (r : Reading) (p : Pending) : cost (r.step p).2 < p.source.cost := by
  obtain ⟨source, parent, muted⟩ := p
  rw [step]
  cases source with
  | element name attributes children =>
    dsimp only
    split
    · simp [cost, Source.costAll, Source.cost]
    · simp [cost, Source.cost, Function.comp_def]
  | _ => simp [cost, Source.costAll, Source.cost]

/-- Everything that waits is read. -/
def run (r : Reading) (pending : List Pending) : Reading :=
  match pending with
  | [] => r
  | p :: pending => run (r.step p).1 ((r.step p).2 ++ pending)
termination_by cost pending
decreasing_by
  have hstep := cost_step r p
  rw [cost] at hstep
  simp only [cost, List.map_append, List.map_cons, Source.costAll, Source.costAll_append]
  omega

end Reading

end Componentry.Markup
