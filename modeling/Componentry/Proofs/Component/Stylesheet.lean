import Componentry.Component.Module
import Componentry.Proofs.Template.Literal

/-!
# The style sheet of a module

A module carries its style sheet in a template literal. Whatever the styles of a document are, they
neither end this literal nor open an expression in it, and reading it back gives the style sheet
between two line ends.

* `suffix_styleBundle`: the styles at the end of a style sheet;
* `Module.assemble_keeps_styles`: the literal of a module.
-/

namespace Componentry

/-- A style sheet ends with the styles that are given, or with those of the document if the given
ones are blank. -/
theorem suffix_styleBundle (styles : List Text) (override : Text) (theme : Theme) :
    (if override.all isBlank then Text.trim (List.intercalate ['\n'] styles)
      else Text.trim override) <:+ styleBundle styles override theme := by
  rw [← Text.isEmpty_trim]
  exact List.suffix_append _ _

namespace Module

open Template

/-- What stands in a module before its style sheet. -/
def preamble (component : Text) : Text :=
  importLine ++ "\n\n" ++ header component ++ "\n\n" ++
    "/* Core Design System Tokens & Custom Styles */\n"

theorem escapeLiteral_enclosed (t : Text) :
    escapeLiteral ("\n" ++ t ++ "\n") = "\n" ++ escapeLiteral t ++ "\n" :=
  (escapeLiteral_newline_cons _).trans (congrArg _ (escapeLiteral_concat_newline t))

theorem styleConstant_eq (bundle : Text) :
    styleConstant bundle = "/* Core Design System Tokens & Custom Styles */\n" ++
      ("const GLOBAL_STYLES = \x60" ++ escapeLiteral ("\n" ++ bundle ++ "\n") ++ "\x60;") := by
  have hopening :
      "/* Core Design System Tokens & Custom Styles */\nconst GLOBAL_STYLES = \x60\n".toList =
        "/* Core Design System Tokens & Custom Styles */\n".toList ++
          ("const GLOBAL_STYLES = \x60".toList ++ "\n".toList) := by decide
  have hclosing : "\n\x60;".toList = "\n".toList ++ "\x60;".toList := by decide
  unfold styleConstant
  rw [hopening, hclosing, escapeLiteral_enclosed]
  simp only [List.append_assoc]

/-- A module starts with its import, its header and its style sheet. -/
theorem exists_assemble_eq (component bundle : Text) (fields : List Field)
    (units : List ComponentUnit) (root : Text) :
    ∃ rest, assemble component bundle fields units root =
      importLine ++ "\n\n" ++ header component ++ "\n\n" ++ styleConstant bundle ++ rest := by
  have hsplit : ∀ (first second : Text) (parts : List Text),
      List.intercalate ['\n', '\n'] (first :: second :: parts) =
        first ++ ("\n\n" ++ List.intercalate ['\n', '\n'] (second :: parts)) :=
    fun first second parts => by rw [List.intercalate_cons_cons, List.append_assoc]; rfl
  unfold assemble
  simp only [List.cons_append]
  rw [hsplit, hsplit, hsplit]
  simp only [List.append_assoc]
  exact ⟨_, rfl⟩

/-- The style sheet of a module stands in a literal that nothing in it ends, and is read back as it
is, with a line end before and after it. -/
theorem assemble_keeps_styles (component : Text) (styles : List Text) (override : Text)
    (theme : Theme) (fields : List Field) (units : List ComponentUnit) (root : Text) :
    (∃ literal rest chars,
      assemble component (styleBundle styles override theme) fields units root =
        preamble component ++ "const GLOBAL_STYLES = \x60" ++ literal ++ "\x60;" ++ rest ∧
      LiteralChar.read? literal = some chars ∧ LiteralChar.Inside chars ∧
      chars.map LiteralChar.value = "\n" ++ styleBundle styles override theme ++ "\n") ∧
    (if override.all isBlank then Text.trim (List.intercalate ['\n'] styles)
      else Text.trim override) <:+ styleBundle styles override theme := by
  refine ⟨?_, suffix_styleBundle styles override theme⟩
  obtain ⟨chars, hread, hvalue, hinside⟩ :=
    exists_read_escapeLiteral ("\n" ++ styleBundle styles override theme ++ "\n")
  obtain ⟨rest, hrest⟩ :=
    exists_assemble_eq component (styleBundle styles override theme) fields units root
  refine ⟨_, rest, chars, ?_, hread, hinside, hvalue⟩
  rw [hrest, styleConstant_eq]
  unfold preamble
  simp only [List.append_assoc]

end Module

end Componentry
