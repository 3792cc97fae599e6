import Componentry.Markup.Reading

/-!
# Documents

A document is a tree of numbered nodes, together with what is taken from it as a whole: its title,
its style sheets and its scripts. Nodes are numbered from zero, the root, in document order.
-/

namespace Componentry

/-- A document. -/
structure Document where
  /-- The root, which stands for the document. -/
  root : Node
  /-- The region that is converted. -/
  body : Node
  /-- The text of the first title that is not blank. -/
  title : Text
  /-- The texts of the style sheets. -/
  styles : List Text
  /-- The texts of the scripts that are run. -/
  scripts : List Text
  /-- The number of nodes. -/
  nodeCount : Nat
  deriving Inhabited

namespace Markup

/-- A node becomes a tree, where `later` are the trees after it. Its children are those of them that
have it for a parent, which come first. -/
def adopt (later : List Row) (row : Row) : List Row :=
  let isChild (tree : Row) : Bool := tree.parent = row.node.uid
  ⟨row.parent, { row.node with children := (later.takeWhile isChild).map Row.node }⟩ ::
    later.dropWhile isChild

/-- The document of what has been read. Its body is the first `body` element, or else the first
`html` element, or else the root. -/
def Reading.document (r : Reading) : Document :=
  let root := Node.element 0 "#document" [] ((r.rows.foldl adopt []).map Row.node)
  { root
    body := ((r.body?.or r.html?).bind fun uid => root.subtree.find? (·.uid = uid)).getD root
    title := r.title
    styles := r.styles
    scripts := r.scripts
    nodeCount := r.next }

end Markup

namespace Document

open Markup

/-- The document of a source tree. -/
def read (sources : List Source) : Document :=
  (Reading.start.run (sources.map fun source => ⟨source, 0, false⟩)).document

/-- The document of a markup text, in which byte order marks count for nothing. -/
def parse (rule : SlashRule) (markup : Text) : Except Rejection Document :=
  (sources rule (markup.filter (· ≠ '\uFEFF'))).map read

end Document

end Componentry
