import Componentry.Markup.Node
import Componentry.Naming
import Componentry.Text.Blank
import Componentry.Text.Casing

/-!
# Landmarks

Which elements of a document are landmarks, which are left out of a component altogether, and what a
unit with a given root is called.
-/

namespace Componentry

/-- The elements that are handled for the document as a whole, or mean nothing in a component. -/
def droppedTags : List Text :=
  ["script", "style", "title", "meta", "link", "head", "base", "noscript"]

/-- The elements that are landmarks by their tag. -/
def landmarkTags : List Text :=
  ["header", "nav", "main", "footer", "section", "article", "aside"]

/-- The roles that make any element a landmark. -/
def landmarkRoles : List Text :=
  ["banner", "navigation", "main", "contentinfo", "complementary", "region"]

namespace Node

/-- A node has the tag of an element that is left out of a component. -/
def isDropped (node : Node) : Bool := node.tag?.any droppedTags.contains

/-- The role of a node, empty if it has none. -/
def role (node : Node) : Text := (Text.trim ((node.attribute? "role").getD [])).lower

/-- A node is a landmark, which only elements are. -/
def isLandmark (node : Node) : Bool :=
  node.isElement && (node.tag?.any landmarkTags.contains || landmarkRoles.contains node.role)

/-- The labels that can name a unit with this root, the most telling first. -/
def labels (node : Node) : List Text :=
  ((["id", "aria-label", "role"].map String.toList).map node.attribute? ++ [node.tag?]).filterMap id

/-- What a unit with this root is called, before names are kept apart: the first label with a word,
with a capital at its start. -/
def unitBaseName (node : Node) : Text :=
  match (node.labels.map Naming.pascalCase).find? (!·.isEmpty) with
  | some name => if name.head?.any Char.isAlpha then name else "Unit" ++ name
  | none => "Unit"

end Node

end Componentry
