import Componentry.Text.Basic
import Componentry.Text.Casing.Table

/-!
# Letter case

Full case mapping of texts: one character may become several, and a capital sigma that ends a word
becomes the final form of the small letter.
-/

namespace Componentry

namespace Casing

/-- The code point that `rows` map the code point `n` to, if they name it. -/
def find? : List (Nat × Nat × Nat × Int) → Nat → Option Nat
  | [], _ => none
  | (first, last, step, offset) :: rows, n =>
    if n < first then none
    else if last < n then find? rows n
    else if (n - first) % step = 0 then some ((n : Int) + offset).toNat
    else none

/-- The nearest character of `context` that letter case does not pass over has letter case. -/
def reachesCased : Text → Bool
  | [] => false
  | c :: context =>
    if inRuns ignorableRuns c.toNat then reachesCased context else inRuns casedRuns c.toNat

/-- The lower case of `c` between `before`, which is in reverse, and `after`. -/
def lowerChar (before : Text) (c : Char) (after : Text) : Text :=
  if c = 'İ' then ['i', Char.ofNat 0x307]
  else if c = 'Σ' then
    if reachesCased before && !reachesCased after then ['ς'] else ['σ']
  else
    match find? lowerRows c.toNat with
    | some n => [Char.ofNat n]
    | none => [c]

/-- The upper case of a character. -/
def upperChar (c : Char) : Text :=
  match find? upperRows c.toNat with
  | some n => [Char.ofNat n]
  | none =>
    match upperExpansions.lookup c.toNat with
    | some ns => ns.map Char.ofNat
    | none => [c]

/-- The lower case of a text that follows `before`, which is in reverse. -/
def lowerAfter (before : Text) : Text → Text
  | [] => []
  | c :: rest => lowerChar before c rest ++ lowerAfter (c :: before) rest

end Casing

namespace Text

/-- A text in lower case. -/
def lower (t : Text) : Text := Casing.lowerAfter [] t

/-- A text in upper case. -/
def upper (t : Text) : Text := t.flatMap Casing.upperChar

end Text

end Componentry
