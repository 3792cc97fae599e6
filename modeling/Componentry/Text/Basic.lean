/-!
# Texts

A text is the sequence of its code points. String literals stand for texts wherever one is
expected, so that the rest of the library can take texts apart by pattern matching and put them
together by `++` without leaving lists.
-/

namespace Componentry

/-- A text, as the sequence of its code points. -/
abbrev Text := List Char

/-- A string literal stands for its code points. -/
instance : Coe String Text := ⟨String.toList⟩

namespace Text

/-- Pairs of string literals as pairs of texts. -/
def pairs (rows : List (String × String)) : List (Text × Text) :=
  rows.map fun (key, value) => (key.toList, value.toList)

/-- String literals as the lines of a text. -/
def ofLines (lines : List String) : Text := List.intercalate ['\n'] (lines.map String.toList)

/-- The pieces of a text between the occurrences of `mark`. A text without `mark` is its own only
piece, and the empty text has one empty piece. -/
def splitOn (mark : Char) : Text → List Text
  | [] => [[]]
  | c :: rest =>
    match splitOn mark rest with
    | [] => [[c]]
    | piece :: more => if c = mark then [] :: piece :: more else (c :: piece) :: more

/-- The part before the first occurrence of `mark` and the part after it, if it occurs at all. -/
def cut? (mark : Char) : Text → Option (Text × Text)
  | [] => none
  | c :: rest =>
    if c = mark then some ([], rest)
    else (cut? mark rest).map fun (before, after) => (c :: before, after)

/-- The part after `opening` of a text that starts with it. -/
def dropPrefix? : Text → Text → Option Text
  | [], text => some text
  | _ :: _, [] => none
  | m :: opening, c :: text => if m = c then dropPrefix? opening text else none

/-- A text starts with `opening`. -/
def startsWith (text opening : Text) : Bool := opening.isPrefixOf text

/-- The number of bytes that a text takes in UTF-8. -/
def byteCount : Text → Nat
  | [] => 0
  | c :: rest => c.utf8Size + byteCount rest

/-- A number written with decimal digits. -/
def ofNat (n : Nat) : Text := Nat.toDigits 10 n

/-- A number written with decimal digits, after a minus sign if it is negative. -/
def ofInt : Int → Text
  | .ofNat n => ofNat n
  | .negSucc n => '-' :: ofNat (n + 1)

end Text

/-- The code point `n` lies in one of `runs`, which are pairs of a first and a last code point in
ascending order. -/
def inRuns : List (Nat × Nat) → Nat → Bool
  | [], _ => false
  | (first, last) :: runs, n => if n < first then false else n ≤ last || inRuns runs n

end Componentry
