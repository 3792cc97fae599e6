import Componentry.Markup.Source

/-!
# Platform

What a program finds where it runs and cannot choose itself.
-/

namespace Componentry

/-- What the program finds where it runs: the room on its stack, and the libraries that are
there. -/
structure Platform where
  /-- The greatest depth to which lists and objects may nest in a settings file, for which there is
  room on the stack. -/
  maxDepth : Nat
  /-- Where the issues that values can have are explained, kind by kind. -/
  guide : Text
  /-- What the reader of markup makes of a slash at the end of a tag. -/
  slash : Markup.SlashRule
  deriving DecidableEq, Repr, Inhabited

end Componentry
