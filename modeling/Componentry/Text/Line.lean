import Componentry.Text.Basic

/-!
# Lines

Two readings of line ends. `Text.lines` cuts a text at every character that ends a line anywhere in
Unicode; `Text.unifyNewlines` is the reading of a text file, which knows the three ASCII line ends
only and turns each into a line feed.
-/

namespace Componentry

/-- A character ends a line: line feed, line tabulator, form feed, carriage return, three
information separators, next line, and the line and paragraph separators. -/
def isLineEnd (c : Char) : Bool :=
  inRuns [(0xA, 0xD), (0x1C, 0x1E), (0x85, 0x85), (0x2028, 0x2029)] c.toNat

namespace Text

/-- The lines of a text without their line ends. A carriage return followed by a line feed is one
line end, and a line end that closes the text opens no further line. -/
def lines : Text → List Text
  | [] => []
  | '\r' :: '\n' :: rest => [] :: lines rest
  | c :: rest =>
    if isLineEnd c then [] :: lines rest
    else
      match lines rest with
      | [] => [[c]]
      | line :: more => (c :: line) :: more

/-- A text with each carriage return, and each carriage return followed by a line feed, turned into
a line feed. -/
def unifyNewlines : Text → Text
  | [] => []
  | '\r' :: '\n' :: rest => '\n' :: unifyNewlines rest
  | '\r' :: rest => '\n' :: unifyNewlines rest
  | c :: rest => c :: unifyNewlines rest

end Text

end Componentry
