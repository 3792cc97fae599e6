import Componentry.Text.Basic

/-!
# Blank characters

The characters that count as white space wherever this library trims a text, cuts it into words or
skips what separates two parts of a tag.
-/

namespace Componentry

/-- The blank characters, as runs of code points: tabulators and line ends, the four information
separators, the space, and the space characters and line separators beyond ASCII. The byte order
mark and the zero width space are not among them. -/
def blankRuns : List (Nat × Nat) := [
  (0x9, 0xD), (0x1C, 0x20), (0x85, 0x85), (0xA0, 0xA0), (0x1680, 0x1680), (0x2000, 0x200A),
  (0x2028, 0x2029), (0x202F, 0x202F), (0x205F, 0x205F), (0x3000, 0x3000)]

/-- A character is blank. -/
def isBlank (c : Char) : Bool := inRuns blankRuns c.toNat

namespace Text

/-- A text without its leading blanks. -/
def trimStart (t : Text) : Text := t.dropWhile isBlank

/-- A text without its trailing blanks. -/
def trimEnd (t : Text) : Text := (t.reverse.dropWhile isBlank).reverse

/-- A text without its leading and trailing blanks. -/
def trim (t : Text) : Text := trimEnd (trimStart t)

/-- The words of a text, which are its longest parts without a blank; `word` holds what has been
read of the current one, in reverse. -/
def wordsFrom (word : Text) : Text → List Text
  | [] => if word.isEmpty then [] else [word.reverse]
  | c :: rest =>
    if isBlank c then
      if word.isEmpty then wordsFrom [] rest else word.reverse :: wordsFrom [] rest
    else wordsFrom (c :: word) rest

/-- The words of a text, which are its longest parts without a blank. -/
def words (t : Text) : List Text := wordsFrom [] t

end Text

end Componentry
