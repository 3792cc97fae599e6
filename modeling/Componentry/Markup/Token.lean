import Componentry.Markup.Entity

/-!
# Tokens of markup

The parts that a markup text consists of, and the two ways in which the text can be refused.
-/

namespace Componentry.Markup

/-- A part of a markup text. -/
inductive Token
  /-- Text between tags, with its references resolved. -/
  | text (content : Text)
  /-- A start tag with its attributes in the order of the text. `closed` says that it ends with a
  slash, so that the element has no content. -/
  | startTag (name : Text) (attributes : List (Text × Text)) (closed : Bool)
  /-- An end tag. -/
  | endTag (name : Text)
  /-- A comment. -/
  | comment (content : Text)
  /-- A section of literal text. -/
  | literal (content : Text)
  /-- A document type, a processing instruction or another declaration. -/
  | instruction (content : Text)
  deriving DecidableEq, Repr

/-- Why a markup text is refused. -/
inductive Rejection
  /-- A marked section has no name; `excerpt` is how it starts. -/
  | unnamedSection (excerpt : Text)
  /-- A marked section has a name that is not known. -/
  | unknownSection (name : Text)
  /-- A numeric reference has too many digits. -/
  | reference (error : Numeral.IntegerError)
  deriving DecidableEq, Repr

/-- What introduces the reason for which a section is refused. -/
def Rejection.preamble : Text :=
  "The markup you provided was rejected by the parser. Trying a different parser or a different " ++
    "encoding may help.\n\nOriginal exception(s) from parser:\n AssertionError: "

/-- The reason in words. -/
def Rejection.message : Rejection → Text
  | .unnamedSection excerpt => preamble ++ "expected name token at " ++ excerpt.quoted
  | .unknownSection name =>
    preamble ++ "unknown status keyword " ++ name.quoted ++ " in marked section"
  | .reference error => error.message

end Componentry.Markup
