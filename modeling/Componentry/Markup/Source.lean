import Componentry.Markup.Scan

/-!
# Source trees

The tree that lenient reading makes of the tokens of a markup text. Elements stay open until their
end tag comes; an end tag closes what is open inside its element, and is ignored where no element of
its name is open. Nothing is ever missing: at the end of the text everything is closed.
-/

namespace Componentry.Markup

/-- The value of an attribute. -/
inductive AttributeValue
  /-- A value as it is written. -/
  | text (value : Text)
  /-- The value of an attribute that lists words. -/
  | words (values : List Text)
  deriving DecidableEq, Repr

/-- The value as one text, with a blank between two words. -/
def AttributeValue.joined : AttributeValue → Text
  | .text value => value
  | .words values => List.intercalate [' '] values

/-- A node of a source tree. -/
inductive Source
  /-- An element. -/
  | element (name : Text) (attributes : List (Text × AttributeValue)) (children : List Source)
  /-- Running text. -/
  | text (content : Text)
  /-- A comment. -/
  | comment (content : Text)
  /-- A section of literal text. -/
  | literal (content : Text)
  /-- A document type, a processing instruction or another declaration. -/
  | instruction (content : Text)
  deriving Inhabited

/-! ### Rules for single elements -/

/-- The elements that have no content. -/
def emptyNames : List Text := [
  "area", "base", "br", "col", "embed", "hr", "img", "input", "keygen", "link", "menuitem", "meta",
  "param", "source", "track", "wbr", "basefont", "bgsound", "command", "frame", "image", "isindex",
  "nextid", "spacer"]

/-- The elements in which blank text is kept as it is. -/
def preformattedNames : List Text := ["pre", "textarea"]

/-- The attributes that list words, on whichever element. -/
def wordAttributes : List Text := ["class", "accesskey", "dropzone"]

/-- The attributes that list words on the elements of a name. -/
def wordAttributesOf : List (Text × List Text) := [
  ("a", ["rel", "rev"]), ("link", ["rel", "rev"]), ("td", ["headers"]), ("th", ["headers"]),
  ("form", ["accept-charset"]), ("object", ["archive"]), ("area", ["rel"]), ("icon", ["sizes"]),
  ("iframe", ["sandbox"]), ("output", ["for"])]

/-- The value of an attribute of an element. -/
def attributeValue (element name value : Text) : AttributeValue :=
  if wordAttributes.contains name || ((wordAttributesOf.lookup element).getD []).contains name then
    .words value.words
  else .text value

/-- Attributes in which `name` has the value `value`: in its place if it is there, at the end if
not. -/
def putAttribute (name : Text) (value : AttributeValue) :
    List (Text × AttributeValue) → List (Text × AttributeValue)
  | [] => [(name, value)]
  | (n, v) :: attributes =>
    if n = name then (n, value) :: attributes else (n, v) :: putAttribute name value attributes

/-- The attributes of an element. A repeated name keeps its place and takes the last value. -/
def elementAttributes (element : Text) (written : List (Text × Text)) :
    List (Text × AttributeValue) :=
  written.foldl (fun attributes (name, value) =>
    putAttribute name (attributeValue element name value) attributes) []

/-- A blank that does not separate words only. -/
def isPlainBlank (c : Char) : Bool := c = ' ' || c = '\n' || c = '\t' || c = '\x0c' || c = '\r'

/-- Text as it enters the tree: what is blank throughout becomes a line feed if it holds one, and a
space if not. -/
def collapseBlank (t : Text) : Text :=
  if t.all isPlainBlank then if t.contains '\n' then ['\n'] else [' '] else t

/-- What a reader makes of a slash at the end of a tag. Versions of a reader differ in this. -/
inductive SlashRule
  /-- The element is closed at once, as later versions have it. -/
  | closes
  /-- The slash is an end tag, as earlier versions have it. Like any other it is ignored if an end
  tag of its name is still to be ignored, and then the element stays open, whether or not it is one
  without content. -/
  | endTag
  deriving DecidableEq, Repr, Inhabited

/-! ### Building the tree -/

/-- An element that is still open. -/
structure OpenElement where
  /-- Its name. -/
  name : Text
  /-- Its attributes. -/
  attributes : List (Text × AttributeValue)
  /-- Its children so far, the last one first. -/
  children : List Source

/-- The element, closed. -/
def OpenElement.close (e : OpenElement) : Source :=
  .element e.name e.attributes e.children.reverse

/-- A tree that is being built. -/
structure Builder where
  /-- The open elements, the innermost one first. -/
  stack : List OpenElement
  /-- The nodes outside of all elements so far, the last one first. -/
  top : List Source
  /-- The pieces of the text that is being collected, the last one first. -/
  pending : List Text
  /-- The names of elements without content whose end tag is still to be ignored. -/
  closed : List Text

namespace Builder

/-- Nothing has been read. -/
def empty : Builder := ⟨[], [], [], []⟩

/-- A node becomes the last child of the innermost open element. -/
def append (b : Builder) (node : Source) : Builder :=
  match b.stack with
  | [] => { b with top := node :: b.top }
  | e :: stack => { b with stack := { e with children := node :: e.children } :: stack }

/-- Text as it enters the tree at this place. -/
def place (b : Builder) (t : Text) : Text :=
  if b.stack.any fun e => preformattedNames.contains e.name then t else collapseBlank t

/-- The collected text becomes a node. -/
def flush (b : Builder) : Builder :=
  match b.pending with
  | [] => b
  | pieces => { b with pending := [] }.append (.text (b.place pieces.reverse.flatten))

/-- An element is opened. -/
def openElement (b : Builder) (name : Text) (attributes : List (Text × Text)) : Builder :=
  { b with stack := ⟨name, elementAttributes name attributes, []⟩ :: b.stack }

/-- The innermost open element is closed. -/
def closeInnermost (b : Builder) : Builder :=
  match b.stack with
  | [] => b
  | e :: stack => { b with stack }.append e.close

/-- The `count` innermost open elements are closed. -/
def closeMany (b : Builder) : Nat → Builder
  | 0 => b
  | count + 1 => b.closeInnermost.closeMany count

/-- The collected text ends, and the innermost open element of a name is closed with all that is
open inside, if there is one. -/
def closeNamed (b : Builder) (name : Text) : Builder :=
  let b := b.flush
  if b.stack.any (·.name = name) then
    b.closeMany ((b.stack.takeWhile (·.name ≠ name)).length + 1)
  else b

/-- An end tag. It is ignored once for each element without content that has been closed at its
start tag. -/
def endTag (b : Builder) (name : Text) : Builder :=
  if b.closed.contains name then { b with closed := b.closed.erase name } else b.closeNamed name

/-- A slash at the end of the tag of the element that has been opened last. -/
def endSlash (rule : SlashRule) (b : Builder) (name : Text) : Builder :=
  match rule with
  | .closes => b.closeNamed name
  | .endTag => b.endTag name

/-- A start tag. What follows from a slash at its end is a matter of the reader; without one, an
element without content is closed at once, and then its end tag will be ignored. -/
def startTag (rule : SlashRule) (b : Builder) (name : Text) (attributes : List (Text × Text))
    (closed : Bool) : Builder :=
  let b := b.flush.openElement name attributes
  if closed then b.endSlash rule name
  else if emptyNames.contains name then
    { b.closeInnermost with closed := name :: b.closed }
  else b

/-- A token enters the tree. -/
def add (rule : SlashRule) (b : Builder) : Token → Builder
  | .text content => { b with pending := content :: b.pending }
  | .startTag name attributes closed => b.startTag rule name attributes closed
  | .endTag name => b.endTag name
  | .comment content => let b := b.flush; b.append (.comment (b.place content))
  | .literal content => let b := b.flush; b.append (.literal (b.place content))
  | .instruction content => let b := b.flush; b.append (.instruction (b.place content))

/-- The nodes outside of all elements, once everything is closed. -/
def finish (b : Builder) : List Source :=
  let b := b.flush
  (b.closeMany b.stack.length).top.reverse

end Builder

/-- The source tree of a markup text, as the nodes outside of all elements. -/
def sources (rule : SlashRule) (t : Text) : Except Rejection (List Source) := do
  let tokens ← tokenize t
  .ok (tokens.foldl (Builder.add rule) Builder.empty).finish

end Componentry.Markup
