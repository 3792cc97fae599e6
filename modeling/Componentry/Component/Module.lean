import Componentry.Markup.Document
import Componentry.Settings
import Componentry.Style.Bundle
import Componentry.Template.Emit
import Componentry.Text.Line
import Componentry.Unit.Decomposition

/-!
# Generated modules

The text of the module that a document becomes: an import, a header, the style sheet, the initial
state, one declaration for each unit, and the root component, which mounts the units in the order of
the document and carries its scripts.
-/

namespace Componentry

/-- A unit with its template. -/
structure ComponentUnit where
  /-- Its name. -/
  name : Text
  /-- The number of its root. -/
  rootUid : Int
  /-- Its template. -/
  body : Text
  /-- The root component uses it, not another unit. -/
  mounted : Bool
  /-- It has a control that is bound to the state. -/
  stateful : Bool
  deriving DecidableEq, Repr, Inhabited

namespace Module

/-- The import of the module. -/
def importLine : Text := "import React, \x7b useCallback, useEffect, useState \x7d from 'react';"

/-- The header of the module. -/
def header (component : Text) : Text :=
  "/**\n * " ++ component ++ " Component\n" ++ Text.ofLines [
    " * ---------------------------------------------------------",
    " * Generated by Manifest Engine v2.1",
    " * Includes automatic component structural inference and",
    " * interactive element state scaffolding.",
    " */"]

/-- The declaration of the style sheet. -/
def styleConstant (bundle : Text) : Text :=
  "/* Core Design System Tokens & Custom Styles */\nconst GLOBAL_STYLES = \x60\n" ++
    Template.escapeLiteral bundle ++ "\n\x60;"

/-- The entry of a field in the initial state. -/
def stateEntry (field : Field) : Text := "  " ++ field.key ++ ": " ++ field.initial.literal ++ ","

/-- The declaration of the initial state. -/
def initialState (fields : List Field) : Text :=
  if fields.isEmpty then "const INITIAL_STATE = \x7b\x7d;"
  else
    "const INITIAL_STATE = \x7b\n" ++ List.intercalate ['\n'] (fields.map stateEntry) ++ "\n\x7d;"

/-- What the header of a unit says about it. -/
def unitNote (stateful : Bool) : Text :=
  if stateful then "Detected interactive elements - bound to shared state."
  else "Static content block."

/-- The declaration of a unit. -/
def unitText (unit : ComponentUnit) : Text :=
  "/**\n * " ++ unit.name ++ " Sub-component\n * " ++ unitNote unit.stateful ++ "\n */\nconst " ++
    unit.name ++ " = (\x7b state, update \x7d) => (\n  " ++ unit.body ++ "\n);"

/-! ### Scripts -/

/-- The blanks before the lines that carry the scripts. -/
def indent : Text := "    "

/-- The lines of the scripts of a document. -/
def scriptLines (scripts : List Text) : List Text :=
  Text.lines (Text.trim (List.intercalate ['\n'] scripts))

/-- A line of a script inside a comment. -/
def inertLine (line : Text) : Text :=
  Text.trimEnd (indent ++ " *   " ++ Template.defuseComment line)

/-- Scripts as a comment. -/
def inertScripts (scripts : List Text) : Text :=
  Text.ofLines [
    "    /*",
    "     * Transmuted Logic Engine (inert)",
    "     * Logic extracted from the original artifact; it is kept for reference",
    "     * and does not run. Port it into effects or event handlers.",
    "     *"] ++ "\n" ++
    List.intercalate ['\n'] ((scriptLines scripts).map inertLine) ++ "\n     */"

/-- Scripts as code that is run, and whose failure is reported under the component's name. -/
def liveScripts (component : Text) (scripts : List Text) : Text :=
  Text.ofLines [
    "    /*",
    "     * Transmuted Logic Engine",
    "     * Logic extracted from the original artifact. Consider refactoring",
    "     * it into effects or event handlers.",
    "     */",
    "    try \x7b"] ++ "\n" ++
    List.intercalate ['\n'] ((scriptLines scripts).map fun line => indent ++ "  " ++ line) ++
    "\n    \x7d catch (error) \x7b\n      console.error(\"[" ++ component ++
    "] Lifecycle Logic Error:\", error);\n    \x7d"

/-- What the root component does when it is mounted. -/
def logic (mode : ScriptMode) (component : Text) (scripts : List Text) : Text :=
  match mode with
  | .drop => []
  | .comment =>
    if scripts.isEmpty then "    // No complex logic detected in artifact source."
    else inertScripts scripts
  | .inline =>
    if scripts.isEmpty then "    // No complex logic detected in artifact source."
    else liveScripts component scripts

/-! ### The root component -/

/-- The root component before its logic. -/
def rootOpening : Text := Text.ofLines [
    "() \x7b",
    "  const [state, setState] = useState(INITIAL_STATE);",
    "  const [isMounted, setIsMounted] = useState(false);",
    "",
    "  const update = useCallback((key, value) => \x7b",
    "    setState((prev) => (\x7b ...prev, [key]: value \x7d));",
    "  \x7d, []);",
    "",
    "  useEffect(() => \x7b",
    "    setIsMounted(true);"]

/-- The root component between its logic and the units that it mounts. -/
def rootMiddle : Text := Text.ofLines [
    "  \x7d, []);",
    "",
    "  return (",
    "    <div className=\"manifest-root min-h-screen bg-white\">",
    "      \x7b/* Dynamic Style Injection */\x7d",
    "      <style dangerouslySetInnerHTML=\x7b\x7b __html: GLOBAL_STYLES \x7d\x7d />",
    "",
    "      \x7b/* Transmuted UI Architecture */\x7d",
    "      <div className=\"manifest-content antialiased text-manifest-main bg-manifest-primary\">"]

/-- The root component after the units that it mounts. -/
def rootClosing : Text := Text.ofLines [
    "      </div>",
    "",
    "      \x7b/* Mounting Overlay */\x7d",
    "      \x7b!isMounted && (",
    "        <div className=\"fixed inset-0 bg-white flex items-center justify-center z-[9999]\">",
    "          <div className=\"animate-spin rounded-full h-12 w-12 border-b-2 " ++
      "border-manifest-accent\"></div>",
    "        </div>",
    "      )\x7d",
    "    </div>",
    "  );",
    "\x7d"]

/-- What the root component shows for the nodes at the top of the body: a mounted unit for its root,
and the text of nodes that are no elements. -/
def slots (emitter : Template.Emitter) (mounted : List (Int × Text)) :
    List Node → Except Numeral.IntegerError (List Text)
  | [] => .ok []
  | node :: nodes => do
    let shown ←
      match mounted.lookup node.uid with
      | some name => .ok [Template.reference name]
      | none => if node.isElement then .ok [] else emitter.emitInline [node]
    let more ← slots emitter mounted nodes
    .ok (shown ++ more)

/-- The lines of slots. -/
def slotText (slots : List Text) : Text :=
  List.intercalate ['\n'] (slots.map fun slot => "        " ++ slot)

/-- The root component. -/
def rootText (component logic slots : Text) : Text :=
  "export default function " ++ component ++ rootOpening ++ "\n" ++ logic ++ "\n" ++ rootMiddle ++
    "\n" ++ slots ++ "\n" ++ rootClosing

/-- The whole module. -/
def assemble (component bundle : Text) (fields : List Field) (units : List ComponentUnit)
    (root : Text) : Text :=
  List.intercalate ['\n', '\n']
    ([importLine, header component, styleConstant bundle, initialState fields] ++
      units.map unitText ++ [root]) ++ "\n"

end Module

end Componentry
