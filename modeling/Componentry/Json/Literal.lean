import Componentry.Text.Quoted

/-!
# String literals

A text between double quotation marks, as JSON and the generated modules write it. Two alphabets are
in use: all of Unicode, where only the quotation mark, the backslash and control characters are
escaped, and ASCII, where every other character is written by its UTF-16 units.
-/

namespace Componentry.Json

/-- The escape of a UTF-16 unit. -/
def unitEscape (n : Nat) : Text := "\\u" ++ Text.hexDigits 4 n

/-- The escapes of the quotation mark, the backslash and the control characters that have a short
one. -/
def shortEscape? (c : Char) : Option Text :=
  if c = '"' then some "\\\""
  else if c = '\\' then some "\\\\"
  else if c = '\n' then some "\\n"
  else if c = '\r' then some "\\r"
  else if c = '\t' then some "\\t"
  else if c = '\x08' then some "\\b"
  else if c = '\x0c' then some "\\f"
  else none

/-- A character inside a literal in the alphabet of Unicode. -/
def literalChar (c : Char) : Text :=
  match shortEscape? c with
  | some escape => escape
  | none => if c.toNat < 0x20 then unitEscape c.toNat else [c]

/-- A character inside a literal in the alphabet of ASCII. Beyond the first plane a character has
two units. -/
def asciiLiteralChar (c : Char) : Text :=
  match shortEscape? c with
  | some escape => escape
  | none =>
    let n := c.toNat
    if 0x20 ≤ n && n < 0x7F then [c]
    else if n < 0x10000 then unitEscape n
    else
      let m := n - 0x10000
      unitEscape (0xD800 + m / 0x400) ++ unitEscape (0xDC00 + m % 0x400)

/-- A text as a literal in the alphabet of Unicode. -/
def literal (t : Text) : Text := '"' :: t.flatMap literalChar ++ ['"']

/-- A text as a literal in the alphabet of ASCII. -/
def asciiLiteral (t : Text) : Text := '"' :: t.flatMap asciiLiteralChar ++ ['"']

end Componentry.Json
