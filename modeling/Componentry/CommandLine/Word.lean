import Componentry.Text.Basic

/-!
# Words of a command line

A command line is cut into words. Quotation marks and backslashes make characters part of a word
that would otherwise end it, and a run of separators, which are `;`, `&` and `|`, is a word of its
own. In the other direction words are quoted so that a line made of them is cut into them again.
-/

namespace Componentry.CommandLine

/-- A character stands between words. -/
def isSpace (c : Char) : Bool := c = ' ' || c = '\t' || c = '\r' || c = '\n'

/-- A character can separate commands. -/
def isSeparator (c : Char) : Bool := c = ';' || c = '&' || c = '|'

/-- A character is a quotation mark. -/
def isQuote (c : Char) : Bool := c = '\'' || c = '"'

/-- Where in a line the reader of words is. -/
inductive Place
  /-- Between two words. -/
  | between
  /-- In a word and outside quotation marks. -/
  | word
  /-- In a run of separators. -/
  | separators
  /-- After the quotation mark `mark`, before the one that closes it. -/
  | quoted (mark : Char)
  /-- After a backslash outside quotation marks. -/
  | escaped
  /-- After a backslash inside double quotation marks. -/
  | escapedInQuotes
  deriving DecidableEq, Repr

/-- Where the reader is after `c`, read between two words, and what it has of a word then. -/
def opened (c : Char) : Place × Text :=
  if isSpace c then (.between, [])
  else if c = '\\' then (.escaped, [])
  else if isSeparator c then (.separators, [c])
  else if isQuote c then (.quoted c, [])
  else (.word, [c])

/-- The words of the rest of a line, where `word` holds what has been read of the current word, in
reverse. There are none if a quotation mark is left open or a backslash ends the line. -/
def wordsFrom? (place : Place) (word : Text) : Text → Option (List Text)
  | [] =>
    match place with
    | .between => some []
    | .word => some [word.reverse]
    | .separators => some [word.reverse]
    | _ => none
  | c :: rest =>
    match place with
    | .between => wordsFrom? (opened c).1 (opened c).2 rest
    | .word =>
      if isSpace c then (wordsFrom? .between [] rest).map (word.reverse :: ·)
      else if isQuote c then wordsFrom? (.quoted c) word rest
      else if c = '\\' then wordsFrom? .escaped word rest
      else if isSeparator c then (wordsFrom? .separators [c] rest).map (word.reverse :: ·)
      else wordsFrom? .word (c :: word) rest
    | .separators =>
      if isSeparator c then wordsFrom? .separators (c :: word) rest
      else (wordsFrom? (opened c).1 (opened c).2 rest).map (word.reverse :: ·)
    | .quoted mark =>
      if c = mark then wordsFrom? .word word rest
      else if c = '\\' && mark = '"' then wordsFrom? .escapedInQuotes word rest
      else wordsFrom? (.quoted mark) (c :: word) rest
    | .escaped => wordsFrom? .word (c :: word) rest
    | .escapedInQuotes =>
      if c = '\\' || c = '"' then wordsFrom? (.quoted '"') (c :: word) rest
      else wordsFrom? (.quoted '"') (c :: '\\' :: word) rest

/-- The words of a line, unless a quotation mark is left open or a backslash ends the line. -/
def words? (line : Text) : Option (List Text) := wordsFrom? .between [] line

/-! ### Quoting -/

/-- A character needs no quotation marks in a word. -/
def isPlain (c : Char) : Bool :=
  c.isAlphanum || c = '_' || c = '@' || c = '%' || c = '+' || c = '=' || c = ':' || c = ',' ||
    c = '.' || c = '/' || c = '-'

/-- A single quotation mark, as it is written inside a text between single quotation marks: the text
is closed, the mark stands between double ones, and the text is opened again. -/
def quotedMark : Text := "'\"'\"'"

/-- A word as it is written in a line. -/
def quoteWord (word : Text) : Text :=
  if !word.isEmpty && word.all isPlain then word
  else '\'' :: word.flatMap (fun c => if c = '\'' then quotedMark else [c]) ++ ['\'']

/-- A line with the given words. -/
def joinWords (words : List Text) : Text := List.intercalate [' '] (words.map quoteWord)

end Componentry.CommandLine
