import Componentry.Numeral.Double

/-!
# Shortest decimal text of a double

A double is written with the fewest significant digits that read back as the same double, and among
those with the ones nearest to it. `shortestDigits` chooses the digits; the rest is layout.
-/

namespace Componentry.Numeral.Double

/-- How often `num` has to be multiplied by ten to reach `den`, at most `fuel` times. -/
def tenfolds (den : Nat) : Nat → Nat → Nat
  | 0, _ => 0
  | fuel + 1, num => if den ≤ num then 0 else tenfolds den fuel (10 * num) + 1

/-- The exponent of the first significant decimal digit of `num / den`. -/
def decimalExponent (num den : Nat) : Int :=
  if den ≤ num then ((Nat.toDigits 10 (num / den)).length : Int) - 1
  else -(tenfolds den 330 num : Int)

/-- A positive quotient together with the half widths below and above it within which decimals are
read back as it; all three have the denominator `den`. -/
structure Interval where
  /-- The numerator of the quotient. -/
  num : Nat
  /-- The common denominator. -/
  den : Nat
  /-- The numerator of the half width below. -/
  below : Nat
  /-- The numerator of the half width above. -/
  above : Nat
  /-- The ends belong to the interval. -/
  closed : Bool

/-- The numbers that are rounded to `m * 2 ^ e`. The half width below a power of two is half as
large, as the numbers below it lie closer; the ends are rounded to an even mantissa. -/
def roundingInterval (m : Nat) (e : Int) : Interval :=
  let narrow := m = leastMantissa && minExponent < e
  let num := if narrow then 4 * m else 2 * m
  let (num, den) := scaled num (if narrow then 4 else 2) (-e)
  let unit := (scaled 1 1 (-e)).1
  ⟨num, den, unit, if narrow then 2 * unit else unit, m % 2 = 0⟩

/-- `digits * 10 ^ place` lies in the interval. -/
def Interval.contains (i : Interval) (digits : Nat) (place : Int) : Bool :=
  let (x, d) :=
    match place with
    | .ofNat p => (digits * Nat.pow 10 p * i.den, 1)
    | .negSucc p => (digits * i.den, Nat.pow 10 (p + 1))
  let low := (i.num - i.below) * d
  let high := (i.num + i.above) * d
  if i.closed then low ≤ x && x ≤ high else low < x && x < high

/-- The multiple of `10 ^ place` in the interval that is nearest to its quotient, if it has one;
of two equally near ones the even one. -/
def Interval.nearest? (i : Interval) (place : Int) : Option Nat :=
  let (n, d) :=
    match place with
    | .ofNat p => (i.num, i.den * Nat.pow 10 p)
    | .negSucc p => (i.num * Nat.pow 10 (p + 1), i.den)
  let near := roundedQuotient n d
  let far := if near = n / d then near + 1 else n / d
  if i.contains near place then some near
  else if i.contains far place then some far
  else none

/-- The fewest digits, from `count` on and by at most `fuel` more, that lie in the interval, and the
decimal place of the last one. -/
def Interval.shortest (i : Interval) (top : Int) : Nat → Nat → Nat × Int
  | 0, count => (0, top - count)
  | fuel + 1, count =>
    let place := top - count
    match i.nearest? place with
    | some digits => (digits, place)
    | none => i.shortest top fuel (count + 1)

/-- The fewest significant digits that read back as `m * 2 ^ e`, as a number without trailing zeros,
and the decimal place of the last digit. -/
def shortestDigits (m : Nat) (e : Int) : Nat × Int :=
  let i := roundingInterval m e
  i.shortest (decimalExponent i.num i.den) 17 0

/-- Digits with a point after the first `whole` ones, and at least one digit on each side of it. -/
def positional (digits : Text) (exponent : Int) : Text :=
  match exponent with
  | .ofNat n =>
    let whole := digits.take (n + 1)
    let fraction := digits.drop (n + 1)
    whole ++ List.replicate (n + 1 - whole.length) '0' ++ "." ++
      (if fraction.isEmpty then ['0'] else fraction)
  | .negSucc n => "0." ++ List.replicate n '0' ++ digits

/-- One digit before the point, the others after it, and an exponent of at least two digits. -/
def scientific (digits : Text) (exponent : Int) : Text :=
  let power := Text.ofNat exponent.natAbs
  digits.take 1 ++ (if digits.length ≤ 1 then [] else '.' :: digits.drop 1) ++
    ['e', if exponent < 0 then '-' else '+'] ++ List.replicate (2 - power.length) '0' ++ power

/-- A number with significant digits `digits`, of which the first counts `10 ^ exponent`: positional
from four places behind the point to sixteen before it, scientific elsewhere. -/
def layout (digits : Text) (exponent : Int) : Text :=
  if -4 ≤ exponent && exponent < 16 then positional digits exponent
  else scientific digits exponent

/-- The shortest text that reads back as the number. -/
def toText : Double → Text
  | .nan => "nan"
  | .infinite negative => (if negative then ['-'] else []) ++ "inf"
  | .finite negative m e =>
    let body : Text :=
      if m = 0 then "0.0"
      else
        let (n, place) := shortestDigits m e
        let digits := Text.ofNat n
        let exponent := place + digits.length - 1
        layout (digits.reverse.dropWhile (· = '0')).reverse exponent
    (if negative then ['-'] else []) ++ body

end Componentry.Numeral.Double
