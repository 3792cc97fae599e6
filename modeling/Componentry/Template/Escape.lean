import Componentry.Text.Blank

/-!
# Escapes in templates

The forms that texts of a document take in a template, so that none of their characters is read as
structure.
-/

namespace Componentry.Template

/-- A character means something in a template. -/
def isTemplateChar (c : Char) : Bool :=
  c = '\x7b' || c = '\x7d' || c = '<' || c = '>' || c = '&'

/-- A character of running text. One that means something in a template becomes a string
expression. -/
def textChar (c : Char) : Text :=
  if isTemplateChar c then ['\x7b', '"', c, '"', '\x7d'] else [c]

/-- Running text. -/
def escapeText (t : Text) : Text := t.flatMap textChar

/-- A text in which no asterisk stands before a slash: a blank comes between them. -/
def defuseComment : Text → Text
  | '*' :: '/' :: rest => '*' :: ' ' :: '/' :: defuseComment rest
  | c :: rest => c :: defuseComment rest
  | [] => []

/-- A comment. -/
def comment (t : Text) : Text := "\x7b/* " ++ defuseComment (Text.trim t) ++ " */\x7d"

/-- A character of an attribute value. -/
def attributeChar (c : Char) : Text :=
  if c = '&' then "&amp;" else if c = '"' then "&quot;" else [c]

/-- An attribute value between double quotation marks. -/
def escapeAttribute (t : Text) : Text := t.flatMap attributeChar

/-- A text inside a template literal. Backslashes, accents that would end the literal, and dollar
signs that would open an expression follow a backslash. -/
def escapeLiteral : Text → Text
  | [] => []
  | '$' :: '\x7b' :: rest => '\\' :: '$' :: '\x7b' :: escapeLiteral rest
  | c :: rest =>
    if c = '\\' || c = '\x60' then '\\' :: c :: escapeLiteral rest else c :: escapeLiteral rest

end Componentry.Template
