import Componentry.CommandLine.Word
import Componentry.Text.Blank

/-!
# Segments of a command line

A command line holds commands with operators between them. Each command makes a segment, together
with the operator before it.
-/

namespace Componentry.CommandLine

/-- What stands between two commands. -/
inductive Operator
  /-- The next command is run after a success only. -/
  | onSuccess
  /-- The next command is run after a failure only. -/
  | onFailure
  /-- The next command is run in any case. -/
  | always
  deriving DecidableEq, Repr

/-- The operator that a word is, if it is one. -/
def Operator.ofWord? (word : Text) : Option Operator :=
  if word = "&&" then some .onSuccess
  else if word = "||" then some .onFailure
  else if word = ";" then some .always
  else none

/-- The word of an operator. -/
def Operator.word : Operator → Text
  | .onSuccess => "&&"
  | .onFailure => "||"
  | .always => ";"

@[simp]
theorem Operator.ofWord?_word (o : Operator) : Operator.ofWord? o.word = some o := by
  cases o <;> decide

/-- A command with the operator before it. -/
structure Segment where
  /-- The name of the command. -/
  name : Text
  /-- Its arguments. -/
  arguments : List Text
  /-- The operator between it and the command before it; none before the first command. -/
  operator? : Option Operator
  deriving DecidableEq, Repr, Inhabited

/-- The segment of some words; none if there are no words. -/
def Segment.ofWords (operator? : Option Operator) : List Text → List Segment
  | [] => []
  | name :: arguments => [⟨name, arguments, operator?⟩]

/-- The segments of the words of a line. The words `current` have been read since the last operator,
which is `operator?`. -/
def segmentsFrom (operator? : Option Operator) (current : List Text) : List Text → List Segment
  | [] => Segment.ofWords operator? current
  | word :: words =>
    match Operator.ofWord? word with
    | some next => Segment.ofWords operator? current ++ segmentsFrom (some next) [] words
    | none => segmentsFrom operator? (current ++ [word]) words

/-- The words of a line without the blanks around it. A line that leaves a quotation mark open is
cut at its blanks. -/
def wordsOf (line : Text) : List Text :=
  (words? (Text.trim line)).getD (Text.words (Text.trim line))

/-- The segments of a line. -/
def segments (line : Text) : List Segment := segmentsFrom none [] (wordsOf line)

end Componentry.CommandLine
