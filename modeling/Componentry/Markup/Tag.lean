import Componentry.Markup.Token
import Componentry.Text.Casing

/-!
# Tags

How a start tag is taken apart. A tag is read leniently: slashes count as blanks, a value may lack
its quotation marks, and a mark that is never closed makes the equals sign before it the start of
the next name.
-/

namespace Componentry.Markup

/-- A character of a tag name after the first, which is a letter. -/
def isTagChar (c : Char) : Bool :=
  !(c = '\t' || c = '\n' || c = '\r' || c = '\x0c' || c = ' ' || c = '/' || c = '>' || c = '\x00')

/-- The tag name at the start of a text, and what follows it. -/
def tagName? : Text → Option (Text × Text)
  | [] => none
  | c :: rest =>
    if c.isAlpha then some (c :: rest.takeWhile isTagChar, rest.dropWhile isTagChar) else none

/-- A text without its leading blanks and slashes, except for a slash that ends the tag. The flag
says whether anything has been skipped, or was said to have been. -/
def skipGap (skipped : Bool) : Text → Bool × Text
  | [] => (skipped, [])
  | c :: rest =>
    if isBlank c || (c = '/' && rest.head? ≠ some '>') then skipGap true rest
    else (skipped, c :: rest)

/-- A quotation mark. -/
def isQuote (c : Char) : Bool := c = '"' || c = '\''

/-- A character of a value without quotation marks. -/
def isBareChar (c : Char) : Bool := !(c = '>' || isBlank c)

/-- The value that follows an attribute's name, and what follows the value; `none` if no value
follows. A quotation mark that is never closed starts no value: the value is then empty if blanks
stand before the mark, starts with the last equals sign if there are several, and is absent
otherwise. -/
def attributeValue? (t : Text) : Option (Text × Text) :=
  let marked := t.dropWhile isBlank
  let marks := marked.takeWhile (· = '=')
  let after := marked.dropWhile (· = '=')
  let body := after.dropWhile isBlank
  if marks.isEmpty then none
  else
    match body with
    | [] => some ([], [])
    | c :: rest =>
      if isQuote c then
        match Text.cut? c rest with
        | some (value, rest) => some (value, rest)
        | none =>
          if body.length < after.length then some ([], body)
          else if 2 ≤ marks.length then
            some ('=' :: body.takeWhile isBareChar, body.dropWhile isBareChar)
          else none
      else some (body.takeWhile isBareChar, body.dropWhile isBareChar)

/-- A character of an attribute's name after its first. -/
def isNameChar (c : Char) : Bool := !(c = '/' || c = '=' || c = '>' || isBlank c)

/-- The attribute at the start of a text: its name, its value as it is written, and what follows it
with the blanks and slashes skipped. The flag says whether a further attribute may start there, for
which something has to separate the two. -/
def readAttribute? : Text → Option ((Text × Text) × Bool × Text)
  | [] => none
  | c :: rest =>
    if c = '/' || c = '>' || isBlank c then none
    else
      let name := c :: rest.takeWhile isNameChar
      let rest := rest.dropWhile isNameChar
      match attributeValue? rest with
      | some (value, after) => some ((name, value), skipGap true after)
      | none => some ((name, []), skipGap (name.getLast?.any isQuote) rest)

/-- The attributes at the start of a text and what follows them. Each takes at least one character,
which bounds their number. -/
def readAttributes : Nat → Bool → Text → List (Text × Text) × Text
  | 0, _, t => ([], t)
  | fuel + 1, separated, t =>
    if separated then
      match readAttribute? t with
      | none => ([], t)
      | some (first, separated, rest) =>
        let (more, rest) := readAttributes fuel separated rest
        (first :: more, rest)
    else ([], t)

/-- What a text that starts like a start tag begins with. -/
inductive TagReading
  /-- A start tag, with the values of its attributes as they are written. -/
  | tag (name : Text) (attributes : List (Text × Text)) (closed : Bool) (rest : Text)
  /-- Something that looks like a start tag and is text. -/
  | text (rest : Text)
  /-- A start tag that does not end. -/
  | unfinished

/-- The start tag whose opening bracket precedes `t`. -/
def readTag (t : Text) : TagReading :=
  match tagName? t with
  | none => .unfinished
  | some (name, rest) =>
    let (separated, rest) := skipGap (name.getLast?.any fun c => isQuote c || isBlank c) rest
    let (attributes, rest) := readAttributes rest.length separated rest
    match rest with
    | '>' :: rest => .tag name attributes false rest
    | '/' :: '>' :: rest => .tag name attributes true rest
    | [] => .unfinished
    | c :: _ => if c.isAlpha || c = '=' || c = '/' then .unfinished else .text rest

/-- The attributes of a tag with lower case names and with the references in their values
resolved. -/
def resolveAttributes : List (Text × Text) → Except Numeral.IntegerError (List (Text × Text))
  | [] => .ok []
  | (name, value) :: attributes => do
    let value ← resolveReferences value
    let attributes ← resolveAttributes attributes
    .ok ((name.lower, value) :: attributes)

end Componentry.Markup
