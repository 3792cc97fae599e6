import Componentry.Numeral.Digits

/-!
# Binary floating-point numbers

The numbers of the 64 bit binary format, held as an exact mantissa and exponent, so that reading,
comparing and printing are integer arithmetic. A decimal fraction is rounded to the nearest of them,
and a tie to the one with an even mantissa.
-/

namespace Componentry.Numeral

/-- A number of the 64 bit binary format. -/
inductive Double
  /-- The number `mantissa * 2 ^ exponent`, or its negative. -/
  | finite (negative : Bool) (mantissa : Nat) (exponent : Int)
  /-- An infinity. -/
  | infinite (negative : Bool)
  /-- Not a number. -/
  | nan
  deriving DecidableEq, Repr, Inhabited

namespace Double

/-- The least exponent of a finite number. -/
def minExponent : Int := -1074

/-- The greatest exponent of a finite number. -/
def maxExponent : Int := 971

/-- The least mantissa of 53 bits. -/
def leastMantissa : Nat := Nat.pow 2 52

/-- All mantissas are less than this. -/
def mantissaLimit : Nat := Nat.pow 2 53

/-- The mantissa and exponent form that every finite number has exactly once. -/
def Canonical : Double → Prop
  | .finite _ m e =>
    m < mantissaLimit ∧ minExponent ≤ e ∧ e ≤ maxExponent ∧ (leastMantissa ≤ m ∨ e = minExponent)
  | _ => True

/-- The quotient of two numbers, rounded to the nearest integer and to the even one of two. -/
def roundedQuotient (num den : Nat) : Nat :=
  let q := num / den
  let r := num % den
  if 2 * r < den || (2 * r = den && q % 2 = 0) then q else q + 1

/-- `num / den` in units of `2 ^ exponent`, as a quotient. -/
def scaled (num den : Nat) (exponent : Int) : Nat × Nat :=
  match exponent with
  | .ofNat e => (num, den * Nat.pow 2 e)
  | .negSucc e => (num * Nat.pow 2 (e + 1), den)

/-- The exponent at which `num / den` has a mantissa of 53 bits, or the least one. -/
def exponentOf (num den : Nat) : Int :=
  let low := max ((num.log2 : Int) - den.log2 - 53) minExponent
  let (n, d) := scaled num den low
  if n / d < mantissaLimit then low else low + 1

/-- The double nearest to `num / den`. -/
def ofQuotient (negative : Bool) (num den : Nat) : Double :=
  let e := exponentOf num den
  let (n, d) := scaled num den e
  let m := roundedQuotient n d
  let (m, e) := if m = mantissaLimit then (leastMantissa, e + 1) else (m, e)
  if maxExponent < e then .infinite negative else .finite negative m e

/-- The double nearest to `digits * 10 ^ exponent`. Numbers of a magnitude beyond the format are not
computed, as they are known to be infinite or zero. -/
def ofDecimal (negative : Bool) (digits : Nat) (exponent : Int) : Double :=
  if digits = 0 then .finite negative 0 minExponent
  else
    let magnitude := (Nat.toDigits 10 digits).length + exponent
    if 310 < magnitude then .infinite negative
    else if magnitude < -330 then .finite negative 0 minExponent
    else
      match exponent with
      | .ofNat e => ofQuotient negative (digits * Nat.pow 10 e) 1
      | .negSucc e => ofQuotient negative digits (Nat.pow 10 (e + 1))

/-- The double nearest to an integer. -/
def ofInt (n : Int) : Double := ofDecimal (decide (n < 0)) n.natAbs 0

/-- An exponent part, which is `e`, an optional sign and digits; zero if there is none. -/
def readExponent? : Text → Option Int
  | [] => some 0
  | mark :: rest =>
    if mark = 'e' || mark = 'E' then
      let (negative, body) :=
        match rest with
        | '-' :: body => (true, body)
        | '+' :: body => (false, body)
        | body => (false, body)
      match groupedDigits? body with
      | some (c :: digits, []) =>
        let n := digitsValue (c :: digits)
        some (if negative then -(n : Int) else n)
      | _ => none
    else none

/-- An unsigned decimal fraction: digits before and after a point, at least one in all, and an
exponent part. -/
def readUnsigned? (negative : Bool) (body : Text) : Option Double := do
  let (whole, after) ← groupedDigits? body
  let (fraction, after) ←
    match after with
    | '.' :: rest => groupedDigits? rest
    | _ => some ([], after)
  if whole.isEmpty && fraction.isEmpty then none
  else
    let exponent ← readExponent? after
    some (ofDecimal negative (digitsValue (whole ++ fraction)) (exponent - fraction.length))

/-- A decimal fraction without sign, or the name of an infinity or of what is not a number. -/
def readMagnitude? (negative : Bool) (body : Text) : Option Double :=
  let name := body.map Char.toLower
  if name = "inf" || name = "infinity" then some (.infinite negative)
  else if name = "nan" then some .nan
  else readUnsigned? negative body

/-- The number that a text writes: an optional sign, then a decimal fraction, `inf`, `infinity` or
`nan`. -/
def read? (source : Text) : Option Double :=
  match plain source with
  | '-' :: body => readMagnitude? true body
  | '+' :: body => readMagnitude? false body
  | body => readMagnitude? false body

/-- The integer part. -/
def truncate? : Double → Option Int
  | .finite negative m e =>
    let n : Nat :=
      match e with
      | .ofNat k => m * Nat.pow 2 k
      | .negSucc k => m / Nat.pow 2 (k + 1)
    some (if negative then -(n : Int) else n)
  | _ => none

/-- The number has no fractional part. -/
def isIntegral : Double → Bool
  | .finite _ m (.negSucc k) => m % Nat.pow 2 (k + 1) = 0
  | .finite _ _ (.ofNat _) => true
  | _ => false

/-- The number as an integer, if it is one. -/
def toInt? (x : Double) : Option Int := if x.isIntegral then x.truncate? else none

end Double

end Componentry.Numeral
