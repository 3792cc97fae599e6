import Componentry.Text.Basic

/-!
# Names

How labels from a document become names in a component: the words of a label joined by capitals, and
names kept apart by counting. Words consist of ASCII letters and digits; a capital after a small
letter or a digit starts a new word.
-/

namespace Componentry.Naming

/-- A name with each hyphen before a small letter dropped and the letter made a capital. -/
def camelCase : Text → Text
  | '-' :: c :: rest =>
    if c.isLower then c.toUpper :: camelCase rest else '-' :: camelCase (c :: rest)
  | c :: rest => c :: camelCase rest
  | [] => []

/-- The word that has been read, if there is one; `word` is in reverse. -/
def finished (word : Text) : List Text := if word.isEmpty then [] else [word.reverse]

/-- A capital `c` starts a new word after `word`, which is in reverse. -/
def startsHump (word : Text) (c : Char) : Bool :=
  c.isUpper && word.head?.any fun before => before.isLower || before.isDigit

/-- The words of a label; `word` holds what has been read of the current one, in reverse. -/
def wordsFrom (word : Text) : Text → List Text
  | [] => finished word
  | c :: rest =>
    if c.isAlphanum then
      if startsHump word c then finished word ++ wordsFrom [c] rest
      else wordsFrom (c :: word) rest
    else finished word ++ wordsFrom [] rest

/-- The words of a label. -/
def words (label : Text) : List Text := wordsFrom [] label

/-- A word with a capital first letter. -/
def capitalized : Text → Text
  | [] => []
  | c :: rest => c.toUpper :: rest

/-- A word with a small first letter. -/
def uncapitalized : Text → Text
  | [] => []
  | c :: rest => c.toLower :: rest

/-- The words of a label, each with a capital first letter, as one name. -/
def pascalCase (label : Text) : Text := (words label).flatMap capitalized

/-- What precedes a name that would start with a digit. -/
def digitLead : Text := "field"

/-- The words of a label as one name, in which all but the first have a capital first letter. It is
empty if the label has no word, and never starts with a digit. -/
def identifier (label : Text) : Text :=
  match words label with
  | [] => []
  | first :: rest =>
    let name := uncapitalized first ++ rest.flatMap capitalized
    if name.head?.any Char.isDigit then digitLead ++ name else name

/-- The name of a component that a label gives, or `fallback` if the label has no word, starts with
a digit or gives a reserved name. -/
def componentName (label fallback : Text) (reserved : List Text) : Text :=
  let name := pascalCase label
  if name.head?.any Char.isAlpha && !reserved.contains name then name else fallback

/-- The first of `stem` followed by `n`, by `n + 1` and so on that is not taken. The first argument
is the number of candidates to try before the last one is returned unseen. -/
def firstFree (taken : List Text) (stem : Text) : Nat → Nat → Text
  | 0, n => stem ++ Text.ofNat n
  | fuel + 1, n =>
    if taken.contains (stem ++ Text.ofNat n) then firstFree taken stem fuel (n + 1)
    else stem ++ Text.ofNat n

/-- A name that is not taken: `base`, or else `base` followed by `separator` and the least number
from two on that makes it free. As many candidates as there are taken names are tried, so that the
one after them is free. -/
def unique (taken : List Text) (base separator : Text) : Text :=
  if taken.contains base then firstFree taken (base ++ separator) taken.length 2 else base

end Componentry.Naming
