import Componentry.Text.Printable

/-!
# Quoted texts

The form in which messages show a text: between quotation marks, with every character that cannot
be shown as it is written as an escape.
-/

namespace Componentry.Text

/-- `n` in `width` or more hexadecimal digits. -/
def hexDigits (width n : Nat) : Text :=
  let digits := Nat.toDigits 16 n
  List.replicate (width - digits.length) '0' ++ digits

/-- A character between two quotation marks `mark`. The mark and the backslash follow a backslash,
three line and tabulator characters have an escape of their own, and other characters that cannot be
shown are written by their code point in two, four or eight hexadecimal digits. -/
def quotedChar (mark c : Char) : Text :=
  if c = mark || c = '\\' then ['\\', c]
  else if c = '\n' then "\\n"
  else if c = '\r' then "\\r"
  else if c = '\t' then "\\t"
  else if isPrintable c then [c]
  else if c.toNat < 0x100 then "\\x" ++ hexDigits 2 c.toNat
  else if c.toNat < 0x10000 then "\\u" ++ hexDigits 4 c.toNat
  else "\\U" ++ hexDigits 8 c.toNat

/-- The quotation mark around a text: double if it holds single ones only. -/
def quotationMark (t : Text) : Char :=
  if t.contains '\'' && !t.contains '"' then '"' else '\''

/-- A text between quotation marks. -/
def quoted (t : Text) : Text :=
  quotationMark t :: t.flatMap (quotedChar (quotationMark t)) ++ [quotationMark t]

end Componentry.Text
