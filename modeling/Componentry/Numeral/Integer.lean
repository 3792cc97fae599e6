import Componentry.Numeral.Digits
import Componentry.Text.Quoted

/-!
# Reading integers

An integer is written with an optional sign and decimal digits, which single underscores may group.
Texts of more than `maxDigits` digits are refused, which is noticed before anything that follows the
digits.
-/

namespace Componentry.Numeral

/-- The most digits that an integer may be written with. -/
def maxDigits : Nat := 4300

/-- The most characters of a quoted text that an error shows. -/
def shownLength : Nat := 200

/-- Why a text is not read as an integer. -/
inductive IntegerError
  /-- The text is not the numeral of an integer. -/
  | malformed (source : Text)
  /-- The numeral has more digits than `maxDigits`. -/
  | tooLong (digits : Nat)
  deriving DecidableEq, Repr

/-- The error in words, which show at most `shownLength` characters of the quoted text. -/
def IntegerError.message : IntegerError → Text
  | .malformed source =>
    "invalid literal for int() with base 10: " ++ source.quoted.take shownLength
  | .tooLong digits =>
    "Exceeds the limit (4300 digits) for integer string conversion: value has " ++
      Text.ofNat digits ++ " digits; use sys.set_int_max_str_digits() to increase the limit"

/-- An unsigned integer; `source` is the text that it is a part of. -/
def readNatural (source body : Text) : Except IntegerError Nat :=
  match groupedDigits? body with
  | none => .error (.malformed source)
  | some (digits, after) =>
    if maxDigits < digits.length then .error (.tooLong digits.length)
    else if digits.isEmpty || !after.isEmpty then .error (.malformed source)
    else .ok (digitsValue digits)

/-- The integer that a text writes. -/
def readInteger (source : Text) : Except IntegerError Int :=
  match plain source with
  | '-' :: body => (readNatural source body).map fun n => -(n : Int)
  | '+' :: body => (readNatural source body).map fun n => (n : Int)
  | body => (readNatural source body).map fun n => (n : Int)

end Componentry.Numeral
