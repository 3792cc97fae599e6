import Componentry.Markup.Tag

/-!
# Cutting markup into tokens

The scanner reads a text twice over. The first reading stops where a construct is not finished, the
second takes such a construct for text and goes on; what that one leaves behind is text as a whole,
or is dropped inside a script or a style sheet. A construct takes at least one character, which
bounds the number of steps.
-/

namespace Componentry.Markup

/-- The elements whose content is taken as it stands. -/
def rawNames : List Text := ["script", "style"]

/-- What one step of the scanner has read. `raw` is the name of the element whose content is taken
as it stands, if the scanner is inside one. -/
inductive Step
  /-- Some tokens, and more is to be read from `rest`. -/
  | more (tokens : List Token) (raw : Option Text) (rest : Text)
  /-- Some tokens, and reading stops before `rest`. -/
  | halt (tokens : List Token) (rest : Text)

/-- A construct that starts with an opening bracket; `none` if it does not end. -/
abbrev Construct := Option (List Token × Option Text × Text)

/-- A run of text as tokens, none for the empty one. -/
def textTokens (t : Text) : List Token := if t.isEmpty then [] else [.text t]

/-! ### Constructs -/

/-- The start tag whose opening bracket precedes `t`. -/
def scanTag (t : Text) : Except Rejection Construct :=
  match readTag t with
  | .unfinished => .ok none
  | .text rest => .ok (some ([.text ('<' :: t.take (t.length - rest.length))], none, rest))
  | .tag name attributes closed rest =>
    match resolveAttributes attributes with
    | .error error => .error (.reference error)
    | .ok attributes =>
      let name := name.lower
      let raw := if !closed && rawNames.contains name then some name else none
      .ok (some ([.startTag name attributes closed], raw, rest))

/-- A character of the name of an end tag after its first. -/
def isEndNameChar (c : Char) : Bool := c.isAlphanum || c = '-' || c = '.' || c = ':' || c = '_'

/-- The name between the brackets of an end tag, if it is a plain name, perhaps with blanks around.
-/
def plainEndName? (inside : Text) : Option Text :=
  match inside.dropWhile isBlank with
  | [] => none
  | c :: rest =>
    if c.isAlpha && (rest.dropWhile isEndNameChar).all isBlank then
      some (c :: rest.takeWhile isEndNameChar)
    else none

/-- The end tag whose opening bracket and slash precede `t`. What is no end tag is a comment, and
nothing if there is nothing between the brackets. -/
def scanEndTag (t : Text) : Construct :=
  (Text.cut? '>' t).map fun (inside, rest) =>
    let tokens : List Token :=
      match plainEndName? inside with
      | some name => [.endTag name.lower]
      | none =>
        match tagName? inside with
        | some (name, _) => [.endTag name.lower]
        | none => if inside.isEmpty then [] else [.comment inside]
    (tokens, none, rest)

/-- The text before the first end of a comment, which is two hyphens and a closing bracket with
blanks between them, and the text after it. -/
def cutComment? : Text → Option (Text × Text)
  | [] => none
  | c :: rest =>
    let ending : Option Text :=
      match c, rest with
      | '-', '-' :: tail =>
        match tail.dropWhile isBlank with
        | '>' :: after => some after
        | _ => none
      | _, _ => none
    match ending with
    | some after => some ([], after)
    | none => (cutComment? rest).map fun (before, after) => (c :: before, after)

/-- The text after `count` closing square brackets and a closing bracket, with blanks between
them. -/
def sectionEnd? : Nat → Text → Option Text
  | 0, '>' :: after => some after
  | count + 1, ']' :: rest => sectionEnd? count (rest.dropWhile isBlank)
  | _, _ => none

/-- The text before the first end of a marked section and the text after it. -/
def cutSection? (count : Nat) : Text → Option (Text × Text)
  | [] => none
  | c :: rest =>
    match sectionEnd? count (c :: rest) with
    | some after => some ([], after)
    | none => (cutSection? count rest).map fun (before, after) => (c :: before, after)

/-- A character of the name of a marked section after its first. -/
def isSectionChar (c : Char) : Bool := c.isAlphanum || c = '-' || c = '_' || c = '.'

/-- How many square brackets close a marked section of that name, if the name is known. -/
def sectionBrackets? (name : Text) : Option Nat :=
  if (["temp", "cdata", "ignore", "include", "rcdata"] : List Text).contains name then some 2
  else if (["if", "else", "endif"] : List Text).contains name then some 1
  else none

/-- The token of a marked section. -/
def sectionToken (content : Text) : Token :=
  if (content.take 6).map Char.toUpper = "CDATA[" then .literal (content.drop 6)
  else .instruction content

/-- The marked section whose opening bracket, exclamation mark and square bracket precede `t`. -/
def scanSection (t : Text) : Except Rejection Construct :=
  match t with
  | [] => .ok none
  | c :: rest =>
    if c.isAlpha then
      let name := c :: rest.takeWhile isSectionChar
      let after := rest.dropWhile isSectionChar
      if after.all isBlank then .ok none
      else
        match sectionBrackets? (name.map Char.toLower) with
        | none => .error (.unknownSection (name ++ after.takeWhile isBlank))
        | some count =>
          .ok ((cutSection? count t).map fun (content, rest) =>
            ([sectionToken content], none, rest))
    else .error (.unnamedSection (("<![" ++ t).take 20))

/-- The declaration whose opening bracket and exclamation mark precede `t`. One of an unknown kind
is a comment. -/
def scanDeclaration (t : Text) : Except Rejection Construct :=
  match t with
  | '[' :: rest => scanSection rest
  | _ =>
    .ok ((Text.cut? '>' t).map fun (content, rest) =>
      if (t.take 7).map Char.toLower = "doctype" then ([.instruction content], none, rest)
      else ([.comment content], none, rest))

/-- The construct whose opening bracket precedes `t`. -/
def scanConstruct (t : Text) : Except Rejection Construct :=
  match t with
  | '/' :: rest => .ok (scanEndTag rest)
  | '!' :: '-' :: '-' :: rest =>
    .ok ((cutComment? rest).map fun (content, rest) => ([.comment content], none, rest))
  | '?' :: rest =>
    .ok ((Text.cut? '>' rest).map fun (content, rest) => ([.instruction content], none, rest))
  | '!' :: rest => scanDeclaration rest
  | _ => scanTag t

/-- A character after an opening bracket that makes the bracket start a construct. -/
def startsConstruct (c : Char) : Bool := c.isAlpha || c = '/' || c = '!' || c = '?'

/-- The text that a construct without end is taken for: up to the next closing bracket, or else
before the next opening one, or else the bracket alone. `t` follows the opening bracket. -/
def cutUnfinished (t : Text) : Text × Text :=
  match Text.cut? '>' t with
  | some (before, after) => ('<' :: before ++ ">", after)
  | none =>
    match Text.cut? '<' t with
    | some (before, after) => ('<' :: before, '<' :: after)
    | none => (['<'], t)

/-- The step at an opening bracket, which precedes `t`. -/
def stepBracket (final : Bool) (t : Text) : Except Rejection Step :=
  match t with
  | [] => .ok (.halt [] ['<'])
  | c :: _ =>
    if startsConstruct c then
      match scanConstruct t with
      | .error rejection => .error rejection
      | .ok (some (tokens, raw, rest)) => .ok (.more tokens raw rest)
      | .ok none =>
        if final then
          let (text, rest) := cutUnfinished t
          .ok (.more [.text text] none rest)
        else .ok (.halt [] ('<' :: t))
    else .ok (.more [.text ['<']] none t)

/-! ### References -/

/-- The step at an ampersand and a number sign, which precede `t`. A numeric reference has to be
ended by a character that is no hexadecimal digit. Where there is none, reading stops: after the two
characters if a semicolon follows anywhere, before them if not. -/
def stepNumeric (t : Text) : Except Rejection Step :=
  let failed : Step :=
    if t.contains ';' then .halt [.text "&#"] t else .halt [] ('&' :: '#' :: t)
  match numericDigits? t with
  | none => .ok failed
  | some (digits, after) =>
    match after with
    | [] => .ok failed
    | c :: _ =>
      if isHexDigit c then .ok failed
      else
        match digits.value with
        | .error error => .error (.reference error)
        | .ok n => .ok (.more [.text [referredChar n]] none (skipSemicolon after))

/-- The step at an ampersand, which precedes `t`. A name that the text ends in stops reading; if it
is a single letter in the second reading, the ampersand is lost. -/
def stepNamed (final : Bool) (t : Text) : Step :=
  match entityName? t with
  | some (name, after) => .more [.text (namedText name)] none (skipSemicolon after)
  | none =>
    match t with
    | [] => .halt [] ['&']
    | c :: rest =>
      if c.isAlpha then if final && rest.isEmpty then .halt [] t else .halt [] ('&' :: t)
      else .more [.text ['&']] none t

/-! ### Raw content -/

/-- A character matches one of a raw element's name, which is in lower case, whatever its own case.
-/
def matchesCaseless (m c : Char) : Bool :=
  c.toLower = m || (m = 's' && c = 'ſ') || (m = 'i' && (c = 'İ' || c = 'ı'))

/-- The text after a raw element's name in any case. -/
def dropCaseless? : Text → Text → Option Text
  | [], t => some t
  | _ :: _, [] => none
  | m :: name, c :: t => if matchesCaseless m c then dropCaseless? name t else none

/-- A raw element's content ends before `t`: an opening bracket, a slash, the name and a closing
bracket, with blanks around the name. -/
def endsRaw (name t : Text) : Bool :=
  match t with
  | '<' :: '/' :: rest =>
    match dropCaseless? name (rest.dropWhile isBlank) with
    | some after => (after.dropWhile isBlank).head? = some '>'
    | none => false
  | _ => false

/-- The text before the end of a raw element's content and the text from there on. -/
def cutRaw? (name : Text) : Text → Option (Text × Text)
  | [] => none
  | c :: rest =>
    if endsRaw name (c :: rest) then some ([], c :: rest)
    else (cutRaw? name rest).map fun (before, after) => (c :: before, after)

/-- The step inside a raw element. What ends its content by case folding alone is text. -/
def stepRaw (name t : Text) : Step :=
  match cutRaw? name t with
  | none => .halt [] t
  | some (before, after) =>
    match Text.cut? '>' (after.drop 2) with
    | none => .halt [] t
    | some (inside, rest) =>
      if (plainEndName? inside).map Text.lower = some name then
        .more (textTokens before ++ [.endTag name]) none rest
      else .more [.text (before ++ "</" ++ inside ++ ">")] (some name) rest

/-! ### The scanner -/

/-- A character of running text. -/
def isPlainChar (c : Char) : Bool := !(c = '<' || c = '&')

/-- One step of the scanner. -/
def step (final : Bool) (raw : Option Text) (t : Text) : Except Rejection Step :=
  match raw with
  | some name => .ok (stepRaw name t)
  | none =>
    match t with
    | [] => .ok (.halt [] [])
    | '<' :: rest => stepBracket final rest
    | '&' :: '#' :: rest => stepNumeric rest
    | '&' :: rest => .ok (stepNamed final rest)
    | _ => .ok (.more [.text (t.takeWhile isPlainChar)] none (t.dropWhile isPlainChar))

/-- What the scanner has read so far. -/
structure Progress where
  /-- The tokens, the last one first. -/
  tokens : List Token
  /-- The name of the raw element that the scanner is inside of. -/
  raw : Option Text
  /-- The text that is left. -/
  rest : Text

/-- As many steps as it takes to stop, but at most as many as the first argument says. -/
def steps (final : Bool) : Nat → Progress → Except Rejection Progress
  | 0, progress => .ok progress
  | fuel + 1, progress =>
    match step final progress.raw progress.rest with
    | .error rejection => .error rejection
    | .ok (.halt tokens rest) => .ok ⟨tokens.reverse ++ progress.tokens, progress.raw, rest⟩
    | .ok (.more tokens raw rest) =>
      steps final fuel ⟨tokens.reverse ++ progress.tokens, raw, rest⟩

/-- The tokens of a markup text. -/
def tokenize (t : Text) : Except Rejection (List Token) := do
  let first ← steps false (t.length + 1) ⟨[], none, t⟩
  let second ← steps true (first.rest.length + 1) first
  let tail := if second.raw.isSome then [] else textTokens second.rest
  .ok (second.tokens.reverse ++ tail)

end Componentry.Markup
