import Componentry.Component.Conversion
import Componentry.Proofs.Markup.Document
import Componentry.Proofs.Template.Comment
import Componentry.Proofs.Text.Line

/-!
# The scripts of a module

A module carries the scripts of its document in the effect of its root component, in a comment or in
a `try` block. Nothing in them ends the comment. In the block they stand line by line behind an
indent; since they are cut wherever a line can end in Unicode, taking the indent off again gives
them back with all these line ends turned into line feeds, not only those of ASCII.

* `Module.comments_stay_closed`: the comment of a module's scripts, and those of its templates;
* `Module.inline_scripts_keep_text`: the scripts in the block, without their indent;
* `Document.not_isBlank_of_mem_scripts`: the scripts of a document are not blank.
-/

namespace Componentry

/-! ### What is carried -/

/-- No script of a document is blank. -/
theorem Document.not_isBlank_of_mem_scripts {rule : Markup.SlashRule} {markup : Text}
    {d : Document} (h : Document.parse rule markup = .ok d) :
    ∀ script ∈ d.scripts, ¬ script.all isBlank := by
  obtain ⟨sources, -, rfl⟩ := Except.map_eq_ok.1 h
  intro script hscript
  rw [Document.read_eq_ofSources] at hscript
  obtain ⟨v, -, hv⟩ := List.mem_filterMap.1 hscript
  rw [Markup.Visit.script?] at hv
  split at hv
  next hrun =>
    cases hv
    rw [← Text.isEmpty_trim]
    simpa using (Bool.and_eq_true_iff.1 hrun).2
  next => cases hv

namespace Module

open Template

/-- The scripts of a document as one text. -/
def scriptText (scripts : List Text) : Text := Text.trim (List.intercalate ['\n'] scripts)

theorem scriptLines_eq (scripts : List Text) :
    scriptLines scripts = Text.lines (scriptText scripts) := rfl

/-- In a module the scripts stand in the effect of the root component, and what is around them is
the same for all scripts. -/
theorem exists_assemble_eq_logic (component bundle slots : Text) (fields : List Field)
    (units : List ComponentUnit) :
    ∃ before after : Text, ∀ mode scripts,
      assemble component bundle fields units
          (rootText component (logic mode component scripts) slots) =
        before ++ (rootOpening ++ "\n" ++ logic mode component scripts ++ "\n" ++ rootMiddle) ++
          after := by
  have hne : [importLine, header component, styleConstant bundle, initialState fields] ++
      units.map unitText ≠ [] := by simp
  refine ⟨List.intercalate ['\n', '\n'] ([importLine, header component, styleConstant bundle,
      initialState fields] ++ units.map unitText) ++ ['\n', '\n'] ++
        "export default function ".toList ++ component,
    "\n".toList ++ slots ++ "\n".toList ++ rootClosing ++ "\n".toList, fun mode scripts => ?_⟩
  unfold assemble rootText
  rw [Text.intercalate_concat hne]
  simp only [List.append_assoc]

/-! ### Scripts in a comment -/

theorem unclosed_inertLine (line : Text) : Unclosed (inertLine line) := by
  have hline : Unclosed (indent ++ " *   " ++ defuseComment line) :=
    (show Unclosed (indent ++ " *   ".toList) by decide).append (unclosed_defuseComment line)
      (.inl (by decide))
  have htrim : inertLine line <+: indent ++ " *   " ++ defuseComment line := by
    rw [inertLine, Text.trimEnd, ← List.reverse_suffix, List.reverse_reverse]
    exact List.dropWhile_suffix _
  exact hline.of_infix htrim.isInfix

/-- What stands before the scripts in their comment, after the mark that opens it. -/
def inertOpening : Text := "\n" ++ Text.ofLines [
  "     * Transmuted Logic Engine (inert)",
  "     * Logic extracted from the original artifact; it is kept for reference",
  "     * and does not run. Port it into effects or event handlers.",
  "     *"] ++ "\n"

theorem inertScripts_eq (scripts : List Text) :
    inertScripts scripts = indent ++ "/*" ++
      (inertOpening ++ List.intercalate ['\n'] ((scriptLines scripts).map inertLine) ++
        "\n     ") ++ "*/" ++ ([] : Text) := by
  have hopening : "    /*".toList = indent ++ "/*".toList := by decide
  have hclosing : "\n     */".toList = "\n     ".toList ++ "*/".toList := by decide
  unfold inertScripts inertOpening
  rw [Text.ofLines_cons_cons, hopening, hclosing]
  simp only [List.append_assoc, List.append_nil]

theorem isComment_inertScripts (scripts : List Text) :
    IsComment indent (inertScripts scripts) [] := by
  have hlines : Unclosed (List.intercalate ['\n'] ((scriptLines scripts).map inertLine)) := by
    refine .intercalate fun line hline => ?_
    obtain ⟨script, -, rfl⟩ := List.mem_map.1 hline
    exact unclosed_inertLine script
  -- a line feed comes before the lines and after them
  have hopened : Unclosed (indent ++ "/*" ++ inertOpening) := by decide +kernel
  have hclosed : Unclosed "\n     *".toList := by decide
  have hwhole := (hopened.append hlines (.inl (by decide))).append hclosed (.inr (by decide))
  rw [inertScripts_eq]
  exact .of_unclosed (by simpa [List.append_assoc] using hwhole) (by decide)

/-- A comment of a document is written as one comment between braces. So are its scripts, if they
are not to run: what they consist of neither ends the comment nor changes what stands around it in
the module. -/
theorem comments_stay_closed (t component : Text) {scripts : List Text} (h : scripts ≠ []) :
    IsComment ['\x7b'] (Template.comment t) ['\x7d'] ∧
      IsComment indent (logic .comment component scripts) [] ∧
      ∀ bundle slots fields units, ∃ before after : Text, ∀ mode others,
        assemble component bundle fields units
            (rootText component (logic mode component others) slots) =
          before ++ (rootOpening ++ "\n" ++ logic mode component others ++ "\n" ++ rootMiddle) ++
            after := by
  refine ⟨isComment_comment t, ?_, fun bundle slots fields units =>
    exists_assemble_eq_logic component bundle slots fields units⟩
  have hlogic : logic .comment component scripts = inertScripts scripts :=
    if_neg (by simpa using h)
  rw [hlogic]
  exact isComment_inertScripts scripts

/-- Two scripts that are full of marks, and that would make another one where they meet. -/
theorem comments_stay_closed_marks :
    ["/**/ f(); **//*".toList, "/ g(); */*/".toList] ≠ [] ∧
      IsComment ['\x7b'] (Template.comment "*/ alert(1) /**//".toList) ['\x7d'] ∧
      IsComment indent
        (logic .comment "Page" ["/**/ f(); **//*".toList, "/ g(); */*/".toList]) [] := by
  have hne : ["/**/ f(); **//*".toList, "/ g(); */*/".toList] ≠ [] := by decide
  have h := comments_stay_closed "*/ alert(1) /**//".toList "Page" hne
  exact ⟨hne, h.1, h.2.1⟩

/-! ### Scripts in a block -/

/-- What stands before scripts that are run. -/
def liveOpening : Text := Text.ofLines [
  "    /*",
  "     * Transmuted Logic Engine",
  "     * Logic extracted from the original artifact. Consider refactoring",
  "     * it into effects or event handlers.",
  "     */",
  "    try \x7b"] ++ "\n"

/-- What stands behind scripts that are run. -/
def liveClosing (component : Text) : Text :=
  "\n    \x7d catch (error) \x7b\n      console.error(\"[" ++ component ++
    "] Lifecycle Logic Error:\", error);\n    \x7d"

/-- What stands before each line of scripts that are run. -/
def liveIndent : Text := "      "

/-- Scripts that are run, between what stands before and behind them. -/
def liveBody (scripts : List Text) : Text :=
  List.intercalate ['\n'] ((scriptLines scripts).map (liveIndent ++ ·))

theorem liveScripts_eq (component : Text) (scripts : List Text) :
    liveScripts component scripts =
      liveOpening ++ liveBody scripts ++ liveClosing component := by
  have hclosing : "\n    \x7d catch (error) \x7b\n      console.error(\"[".toList ++ component ++
      "] Lifecycle Logic Error:\", error);\n    \x7d".toList = liveClosing component := rfl
  have hindent : indent ++ "  ".toList = liveIndent := by decide
  rw [liveScripts, hindent, liveOpening, liveBody, ← hclosing]
  simp only [List.append_assoc]

/-- The text of scripts that are not all blank is not empty. -/
theorem scriptText_ne_nil {scripts : List Text} {script : Text} (hmem : script ∈ scripts)
    (h : ¬ script.all isBlank) : scriptText scripts ≠ [] := by
  intro hnil
  have hblank : (List.intercalate ['\n'] scripts).all isBlank := by
    rw [← Text.isEmpty_trim, List.isEmpty_iff]
    exact hnil
  rw [List.all_eq_true] at h hblank
  exact h fun c hc => hblank c ((Text.infix_intercalate hmem _).subset hc)

theorem not_isLineEnd_of_getLast?_scriptText (scripts : List Text) :
    ∀ c ∈ (scriptText scripts).getLast?, ¬ isLineEnd c := by
  intro c hc hend
  obtain ⟨rest, hrest⟩ := List.getLast?_eq_some_iff.1 hc
  exact Text.not_isBlank_of_trim_eq_concat hrest (Text.isBlank_of_isLineEnd hend)

theorem unindent?_liveBody {scripts : List Text} (h : scriptText scripts ≠ []) :
    Text.unindent? liveIndent (liveBody scripts) =
      some (Text.unifyLineEnds (scriptText scripts)) := by
  have hlines : ∀ line ∈ scriptLines scripts, '\n' ∉ line := fun line hline hmem =>
    Text.not_isLineEnd_of_mem_lines hline hmem (by decide)
  rw [scriptLines_eq] at hlines
  rw [liveBody, scriptLines_eq, Text.unindent?_indented (by decide) (Text.lines_ne_nil h) hlines,
    Text.intercalate_lines (not_isLineEnd_of_getLast?_scriptText scripts)]

/-- Scripts of a document that are to run stand in a `try` block, and without the indent of its
lines they are the scripts of the document with every line end of Unicode turned into a line feed.
So they are what the reading of a text file would make of them, exactly if line feeds and carriage
returns are their only line ends. -/
theorem inline_scripts_keep_text (component : Text) {scripts : List Text} (hne : scripts ≠ [])
    (h : ∀ script ∈ scripts, ¬ script.all isBlank) :
    ∃ body, logic .inline component scripts = liveOpening ++ body ++ liveClosing component ∧
      Text.unindent? liveIndent body = some (Text.unifyLineEnds (scriptText scripts)) ∧
      (Text.unindent? liveIndent body = some (Text.unifyNewlines (scriptText scripts)) ↔
        ∀ c ∈ scriptText scripts, isLineEnd c → c = '\n' ∨ c = '\r') := by
  obtain ⟨script, hmem⟩ := List.exists_mem_of_ne_nil _ hne
  have hbody := unindent?_liveBody (scriptText_ne_nil hmem (h script hmem))
  refine ⟨liveBody scripts, ?_, hbody, ?_⟩
  · rw [← liveScripts_eq]
    exact if_neg (by simpa using hne)
  · rw [hbody, Option.some.injEq]
    exact Text.unifyLineEnds_eq_unifyNewlines_iff _

/-- Two scripts with all three line ends of ASCII, an empty line and an indent of their own. -/
theorem inline_scripts_keep_text_mixed :
    ∃ d, Document.parse .closes
        "<script>\r\nif (a) \x7b\r\n  f();\n\n\x7d\r\x0c</script><script>g(); </script>" = .ok d ∧
      d.scripts ≠ [] ∧ (∀ script ∈ d.scripts, ¬ script.all isBlank) ∧
      ∃ body, logic .inline "Page" d.scripts = liveOpening ++ body ++ liveClosing "Page" ∧
        Text.unindent? liveIndent body = some (Text.unifyLineEnds (scriptText d.scripts)) := by
  have hscripts : (Document.parse .closes
      "<script>\r\nif (a) \x7b\r\n  f();\n\n\x7d\r\x0c</script><script>g(); </script>").map
      Document.scripts =
        .ok ["\r\nif (a) \x7b\r\n  f();\n\n\x7d\r\x0c".toList, "g(); ".toList] := by
    decide +kernel
  obtain ⟨d, hd, heq⟩ := Except.map_eq_ok.1 hscripts
  have hne : d.scripts ≠ [] := heq ▸ List.cons_ne_nil _ _
  have hblank := Document.not_isBlank_of_mem_scripts hd
  obtain ⟨body, hbody, htext, -⟩ := inline_scripts_keep_text "Page" hne hblank
  exact ⟨d, hd, hne, hblank, body, hbody, htext⟩

/-- A line separator may stand in a string literal of a script, where a line feed may not. -/
theorem separator_becomes_newline :
    (Document.parse .closes "<script>s = 'a\u2028b';</script>").map Document.scripts =
        .ok ["s = 'a\u2028b';".toList] ∧
      ∀ component body,
        logic .inline component ["s = 'a\u2028b';".toList] =
            liveOpening ++ body ++ liveClosing component →
          Text.unindent? liveIndent body = some "s = 'a\nb';".toList ∧
          Text.unindent? liveIndent body ≠
            some (Text.unifyNewlines (scriptText ["s = 'a\u2028b';".toList])) := by
  refine ⟨by decide +kernel, fun component body h => ?_⟩
  have hlogic : logic .inline component ["s = 'a\u2028b';".toList] =
      liveOpening ++ liveBody ["s = 'a\u2028b';".toList] ++ liveClosing component :=
    liveScripts_eq component _
  -- the block has no other body
  obtain rfl : liveBody ["s = 'a\u2028b';".toList] = body :=
    List.append_cancel_left (List.append_cancel_right (hlogic.symm.trans h))
  exact ⟨by decide +kernel, by decide +kernel⟩

end Module

end Componentry
