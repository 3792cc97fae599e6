import Componentry.Text.Basic

/-!
# Paths

A path is absolute or relative and consists of names. Empty names and single dots are left out when
a path is read; double dots stay, as what they mean depends on the directories that they pass
through.
-/

namespace Componentry

/-- A path to a file or directory. -/
structure Path where
  /-- The slashes at the start: none of a relative path, one or exactly two of an absolute one. -/
  root : Text
  /-- The names, none of which is empty, a single dot or holds a slash. -/
  names : List Text
  deriving DecidableEq, Repr, Inhabited

namespace Path

/-- The path starts at the root of the disk. -/
def isAbsolute (p : Path) : Bool := !p.root.isEmpty

/-- The slashes that say that a text is an absolute path. More than two count as one. -/
def rootOf : Text → Text
  | '/' :: '/' :: '/' :: _ => ['/']
  | '/' :: '/' :: _ => ['/', '/']
  | '/' :: _ => ['/']
  | _ => []

/-- The names in a text. -/
def namesOf (t : Text) : List Text :=
  (Text.splitOn '/' t).filter fun name => !name.isEmpty && name ≠ ['.']

/-- The path that a text writes. -/
def parse (t : Text) : Path := ⟨rootOf t, namesOf t⟩

/-- A path as a text; the relative path without names is a dot. -/
def toText (p : Path) : Text :=
  if p.root.isEmpty && p.names.isEmpty then ['.']
  else p.root ++ List.intercalate ['/'] p.names

/-- The path that `t` writes, seen from the directory `p`. -/
def join (p : Path) (t : Text) : Path :=
  let q := parse t
  if q.isAbsolute then q else ⟨p.root, p.names ++ q.names⟩

/-- The path without its last name. -/
def parent (p : Path) : Path := ⟨p.root, p.names.dropLast⟩

/-- The part of a file name before its last dot, which neither starts nor ends the name. -/
def stemOf (name : Text) : Text :=
  let reversed := name.reverse
  let suffix := reversed.takeWhile (· ≠ '.')
  match reversed.drop suffix.length with
  | '.' :: stem => if suffix.isEmpty || stem.isEmpty then name else stem.reverse
  | _ => name

/-- The last name of a path without its suffix. -/
def stem (p : Path) : Text := stemOf (p.names.getLast?.getD [])

end Path

end Componentry
