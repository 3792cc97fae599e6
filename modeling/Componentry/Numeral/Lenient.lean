import Componentry.Numeral.Integer

/-!
# Reading whole numbers leniently

A whole number is written plainly with a minus sign or none and the digits that it needs. Any other
text is tidied first: blanks around it, a plus sign, zeros in front, a fraction of zeros and single
underscores between other characters are taken away. What is left then has to be written plainly.
-/

namespace Componentry.Numeral

/-- Why a text is not read as a whole number. -/
inductive LenientError
  /-- The text does not write a whole number. -/
  | malformed
  /-- The text starts with a plain numeral of more than `maxDigits` digits. -/
  | tooLong
  deriving DecidableEq, Repr

/-- The text after a minus sign, if there is one, and whether there is. -/
def cutMinus : Text → Bool × Text
  | '-' :: body => (true, body)
  | body => (false, body)

/-- The digits of a plain numeral at the start of a text, and what follows them. A zero that comes
first is the only digit. -/
def plainDigits : Text → Text × Text
  | '0' :: rest => (['0'], rest)
  | t => (t.takeWhile Char.isDigit, t.dropWhile Char.isDigit)

/-- The whole number that a text writes plainly. The digits are counted before what follows them is
looked at, and a minus sign is not one of them. -/
def readPlain (t : Text) : Except LenientError Int :=
  let (negative, body) := cutMinus t
  let (digits, after) := plainDigits body
  if maxDigits < digits.length then .error .tooLong
  else if digits.isEmpty || !after.isEmpty then .error .malformed
  else .ok (if negative then -(digitsValue digits : Int) else (digitsValue digits : Int))

/-- What is left of a text after the zeros and underscores at its start, the last of which was
`last`. Digits and a minus sign may follow them; `last` is kept before a point and at the end. -/
def afterZeros? (last : Char) : Text → Option Text
  | [] => some [last]
  | c :: rest =>
    if c = '0' || c = '_' then afterZeros? c rest
    else if c.isDigit || c = '-' then some (c :: rest)
    else if c = '.' then some (last :: c :: rest)
    else none

/-- A text without the zeros in front of its number. A text that starts with neither a digit nor a
minus sign has no number. -/
def dropZeros? : Text → Option Text
  | [] => none
  | c :: rest =>
    if c = '0' then afterZeros? c rest
    else if c.isDigit || c = '-' then some (c :: rest)
    else none

/-- A text without a fraction that has zeros only. -/
def dropZeroFraction (t : Text) : Text :=
  match Text.cut? '.' t with
  | some (whole, zeros) => if !zeros.isEmpty && zeros.all (· = '0') then whole else t
  | none => t

/-- A text without its underscores, unless one of them is not between other characters. -/
def dropGrouping (t : Text) : Text :=
  let groups := Text.splitOn '_' t
  if groups.all (!·.isEmpty) then groups.flatten else t

/-- A text without what may stand around the plain numeral of a whole number. -/
def tidy? (t : Text) : Option Text :=
  match ((t.dropWhile isPadding).reverse.dropWhile isPadding).reverse with
  | '+' :: '-' :: _ => none
  | '+' :: body => (dropZeros? body).map fun t => dropGrouping (dropZeroFraction t)
  | '-' :: body => (dropZeros? body).map fun t => '-' :: dropGrouping (dropZeroFraction t)
  | body => (dropZeros? body).map fun t => dropGrouping (dropZeroFraction t)

/-- The whole number that a text writes. A text that starts with too long a plain numeral is refused
for that, whatever follows. -/
def readLenient (t : Text) : Except LenientError Int :=
  match readPlain t with
  | .error .malformed =>
    match (tidy? t).map readPlain with
    | some (.ok n) => .ok n
    | _ => .error .malformed
  | result => result

end Componentry.Numeral
