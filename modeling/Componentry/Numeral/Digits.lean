import Componentry.Text.Blank
import Componentry.Text.Word

/-!
# Written digits

What integers and decimal fractions have in common when they are read: the blanks around a numeral,
digits of any script, and underscores that group digits.
-/

namespace Componentry.Numeral

/-- A blank that may surround a numeral. The information separators are blanks elsewhere and not
here. -/
def isPadding (c : Char) : Bool := isBlank c && !(0x1C ≤ c.toNat && c.toNat ≤ 0x1F)

/-- A text without the blanks around it, with each digit of another script turned into the ASCII
digit of the same value. -/
def plain (t : Text) : Text :=
  (((t.dropWhile isPadding).reverse.dropWhile isPadding).reverse).map fun c =>
    match digitValue? c with
    | some d => Nat.digitChar d
    | none => c

/-- The value of ASCII digits, most significant first. -/
def digitsValue (digits : Text) : Nat :=
  digits.foldl (fun n c => 10 * n + (c.toNat - '0'.toNat)) 0

/-- A run of digits with single underscores between digits, without the underscores, and what
follows the run. `grouping` says that a digit has just been read, so that an underscore may come.
`none` if an underscore stands anywhere else. -/
def digitsFrom? (grouping : Bool) : Text → Option (Text × Text)
  | [] => some ([], [])
  | ['_'] => none
  | '_' :: d :: rest =>
    if grouping && d.isDigit then
      (digitsFrom? true rest).map fun (digits, after) => (d :: digits, after)
    else none
  | c :: rest =>
    if c.isDigit then (digitsFrom? true rest).map fun (digits, after) => (c :: digits, after)
    else some ([], c :: rest)

/-- The digits that a text starts with, without the underscores that group them, and what follows.
`none` if an underscore stands where it groups nothing. -/
def groupedDigits? (t : Text) : Option (Text × Text) := digitsFrom? false t

/-- The value of a hexadecimal digit. -/
def hexValue? (c : Char) : Option Nat :=
  if c.isDigit then some (c.toNat - '0'.toNat)
  else if 'a' ≤ c && c ≤ 'f' then some (c.toNat - 'a'.toNat + 10)
  else if 'A' ≤ c && c ≤ 'F' then some (c.toNat - 'A'.toNat + 10)
  else none

end Componentry.Numeral
