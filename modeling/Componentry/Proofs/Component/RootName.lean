import Componentry.Component.Request
import Componentry.Proofs.Component.Naming
import Componentry.Proofs.Component.Script
import Componentry.Proofs.Json.Literal
import Componentry.Proofs.Session.Export
import Componentry.Proofs.Template.PropName

/-!
# The name of the root component

The name of the root component stands in the header of its module, in the declaration of the
function, in the message that reports a failing script, and in the name of the file. A capital that
letters and digits follow can stand in all of these places. The name that a label gives is of that
kind whenever it is taken; the name that the settings give in its place is taken as it is.

* `isRootName_nameOf_iff`: when a component gets such a name;
* `Conversion.Serves`: what such a name is good for;
* `Conversion.name_serves_iff`: the law for the conversion of a request.
-/

namespace Componentry

/-! ### Names that can be used -/

/-- A text can name a root component: it is a capital followed by letters and digits, and no name
that every module uses itself. -/
def IsRootName (name : Text) : Prop :=
  name.head?.any Char.isUpper ∧ (∀ c ∈ name, c.isAlphanum) ∧ name ∉ reservedNames

instance (name : Text) : Decidable (IsRootName name) :=
  decidable_of_iff
    (name.head?.any Char.isUpper && (name.all Char.isAlphanum && !reservedNames.contains name))
    (by simp [IsRootName])

theorem IsRootName.ne_nil {name : Text} (h : IsRootName name) : name ≠ [] := by
  rintro rfl
  cases h.1

/-- No character of such a name is one that the texts around it give a meaning. -/
theorem IsRootName.not_mem {name : Text} (h : IsRootName name) {c : Char} (hc : ¬ c.isAlphanum) :
    c ∉ name :=
  fun hmem => hc (h.2.1 c hmem)

/-- The name that a label gives can be used exactly if it is taken. -/
theorem isRootName_pascalCase_iff (label : Text) :
    IsRootName (Naming.pascalCase label) ↔
      ((Naming.pascalCase label).head?.any Char.isAlpha &&
        !reservedNames.contains (Naming.pascalCase label)) := by
  rw [IsRootName, Bool.and_eq_true, Bool.not_eq_true', ← Bool.not_eq_true, List.contains_iff_mem]
  constructor
  · rintro ⟨hupper, -, hfree⟩
    refine ⟨?_, hfree⟩
    obtain ⟨c, hhead, hc⟩ := (Option.any_eq_true _ _).1 hupper
    rw [hhead, Option.any_some, Char.isAlpha, hc, Bool.true_or]
  · rintro ⟨hletter, hfree⟩
    obtain ⟨c, hhead, hc⟩ := (Option.any_eq_true _ _).1 hletter
    refine ⟨?_, fun d hd => Naming.isAlphanum_of_mem_pascalCase hd, hfree⟩
    rw [hhead, Option.any_some]
    exact Naming.isUpper_of_head?_pascalCase hhead hc

/-- A component gets a name that can be used if its label gives one, and otherwise exactly if the
settings do, or give none. -/
theorem isRootName_nameOf_iff (settings : Settings) (label : Text) :
    IsRootName (Conversion.nameOf settings label) ↔
      IsRootName (Naming.pascalCase label) ∨ settings.defaultName = [] ∨
        IsRootName settings.defaultName := by
  have hstandard : IsRootName Settings.standardName := by decide +kernel
  rw [Conversion.nameOf, Naming.componentName]
  by_cases hlabel : IsRootName (Naming.pascalCase label)
  · rw [if_pos ((isRootName_pascalCase_iff label).1 hlabel)]
    exact iff_of_true hlabel (.inl hlabel)
  · rw [if_neg (mt (isRootName_pascalCase_iff label).2 hlabel), or_iff_right hlabel]
    by_cases hempty : settings.defaultName = []
    · simp [hempty, hstandard]
    · simp [hempty]

/-! ### Places where a name stands -/

namespace Module

/-- The lines of the header of a component. -/
def headerLines (component : Text) : List Text := [
  "/**",
  " * " ++ component ++ " Component",
  " * ---------------------------------------------------------",
  " * Generated by Manifest Engine v2.1",
  " * Includes automatic component structural inference and",
  " * interactive element state scaffolding.",
  " */"]

/-- What stands in a header behind its name, up to the end of the comment. -/
def headerNotes : Text := Text.ofLines [
  " * ---------------------------------------------------------",
  " * Generated by Manifest Engine v2.1",
  " * Includes automatic component structural inference and",
  " * interactive element state scaffolding.",
  " "]

/-- The lines of a header behind the one with its name. -/
def headerTail : List String := [
  " * ---------------------------------------------------------",
  " * Generated by Manifest Engine v2.1",
  " * Includes automatic component structural inference and",
  " * interactive element state scaffolding.",
  " */"]

theorem header_eq (component : Text) :
    header component =
      "/**\n * ".toList ++ component ++ " Component\n".toList ++ Text.ofLines headerTail := rfl

theorem lines_header {component : Text} (h : IsRootName component) :
    Text.lines (header component) = headerLines component := by
  have hfixed : ∀ t ∈ ["/**".toList, " * ".toList, " Component".toList],
      ∀ c ∈ t, ¬ isLineEnd c := by
    intro t ht c hc
    have hall : ["/**".toList, " * ".toList, " Component".toList].all (·.all (!isLineEnd ·)) := by
      decide
    simpa using List.all_eq_true.1 (List.all_eq_true.1 hall t ht) c hc
  -- the name is on the second line, and nothing in it ends this line
  have hsecond : ∀ c ∈ " * ".toList ++ component ++ " Component".toList, ¬ isLineEnd c :=
    List.forall_mem_append.2 ⟨List.forall_mem_append.2 ⟨hfixed _ (by simp), fun c hc =>
      Text.not_isLineEnd_of_isAlphanum (h.2.1 c hc)⟩, hfixed _ (by simp)⟩
  have hheader : header component = "/**".toList ++ '\n' ::
      ((" * ".toList ++ component ++ " Component".toList) ++ '\n' :: Text.ofLines headerTail) := by
    have hopening : "/**\n * ".toList = "/**".toList ++ '\n' :: " * ".toList := by decide
    have hafter : " Component\n".toList = " Component".toList ++ ['\n'] := by decide
    rw [header_eq, hopening, hafter]
    simp only [List.append_assoc, List.cons_append, List.nil_append]
  have hrest : Text.lines (Text.ofLines headerTail) = headerTail.map String.toList := by
    decide +kernel
  rw [hheader, Text.lines_append_cons (hfixed _ (by simp)), Text.lines_append_cons hsecond, hrest]
  rfl

theorem isComment_header {component : Text} (h : IsRootName component) :
    Template.IsComment [] (header component) [] := by
  have hopening : "/**\n * ".toList = "/*".toList ++ "*\n * ".toList := by decide
  have hnotes : Text.ofLines headerTail = headerNotes ++ "*/".toList := by decide +kernel
  have hheader : header component = [] ++ "/*".toList ++
      ("*\n * ".toList ++ component ++ (" Component\n".toList ++ headerNotes)) ++ "*/".toList ++
        [] := by
    rw [header_eq, hopening, hnotes]
    simp only [List.append_assoc, List.nil_append, List.append_nil]
  -- the blanks around the name keep it apart from the rest
  have hstart : Template.Unclosed ("/**\n * ".toList ++ component) :=
    .append (by decide) (.of_not_mem (h.not_mem (by decide))) (.inl (by decide))
  have hend : Template.Unclosed (" Component\n".toList ++ headerNotes ++ ['*']) := by
    decide +kernel
  have hwhole := hstart.append hend (.inr (by decide +kernel))
  rw [hheader]
  rw [hopening] at hwhole
  exact .of_unclosed (by simpa [List.append_assoc] using hwhole) (by decide)

theorem flatMap_literalChar {name : Text} (h : ∀ c ∈ name, c.isAlphanum) :
    name.flatMap Json.literalChar = name := by
  have hchar : ∀ c ∈ name, Json.literalChar c = [c] := by
    -- no character with an escape of its own is a letter or a digit
    intro c hc
    have hne : ∀ d : Char, ¬ d.isAlphanum → c ≠ d := fun d hd heq => hd (heq ▸ h c hc)
    rw [Json.literalChar, Json.shortEscape?, if_neg (hne _ (by decide)),
      if_neg (hne _ (by decide)), if_neg (hne _ (by decide)), if_neg (hne _ (by decide)),
      if_neg (hne _ (by decide)), if_neg (hne _ (by decide)), if_neg (hne _ (by decide))]
    exact if_neg (by have := Text.toNat_of_isAlphanum (h c hc); omega)
  rw [List.flatMap_congr hchar, List.flatMap_singleton']

theorem liveClosing_eq_literal {component : Text} (h : IsRootName component) :
    liveClosing component = "\n    \x7d catch (error) \x7b\n      console.error(" ++
      Json.literal ("[" ++ component ++ "] Lifecycle Logic Error:") ++ ", error);\n    \x7d" := by
  have hopening : "\n    \x7d catch (error) \x7b\n      console.error(\"[".toList =
      "\n    \x7d catch (error) \x7b\n      console.error(".toList ++ '"' :: "[".toList := by decide
  have hclosing : "] Lifecycle Logic Error:\", error);\n    \x7d".toList =
      "] Lifecycle Logic Error:".toList ++ '"' :: ", error);\n    \x7d".toList := by decide
  have hfixed : "[".toList.flatMap Json.literalChar = "[".toList ∧
      "] Lifecycle Logic Error:".toList.flatMap Json.literalChar =
        "] Lifecycle Logic Error:".toList := by decide +kernel
  unfold liveClosing Json.literal
  rw [hopening, hclosing, List.flatMap_append, List.flatMap_append, hfixed.1, hfixed.2,
    flatMap_literalChar h.2.1]
  simp only [List.append_assoc, List.cons_append, List.nil_append]

end Module

namespace Path

/-- A file name without a slash leads to a file in the directory itself. -/
theorem join_eq {p : Path} {name : Text} (hslash : '/' ∉ name) (hne : name ≠ [])
    (hdot : name ≠ ['.']) : p.join name = ⟨p.root, p.names ++ [name]⟩ := by
  have hroot : rootOf name = [] := by
    unfold rootOf
    split
    · exact absurd List.mem_cons_self hslash
    · exact absurd List.mem_cons_self hslash
    · exact absurd List.mem_cons_self hslash
    · rfl
  have hnames : namesOf name = [name] := by
    rw [namesOf, Text.splitOn_eq_singleton hslash]
    simp [hne, hdot]
  rw [join, parse, hroot, hnames]
  rfl

end Path

/-! ### Components that can be used -/

namespace Conversion

/-- The name of a component serves wherever it stands: it changes neither the comment at the top of
the module nor the declaration of the function nor the message, and names a file. -/
structure Serves (c : Conversion) : Prop where
  /-- The header is one comment, and the name stands on its second line. -/
  header : Module.header c.name <:+: c.source ∧
    Template.IsComment [] (Module.header c.name) [] ∧
    Text.lines (Module.header c.name) = Module.headerLines c.name
  /-- The module exports a function of that name, and a reader of the declaration takes the whole
  name. -/
  function : Module.Exports c.source c.name ∧
    Template.Reader.name? (c.name ++ "() \x7b".toList) = some (c.name, "() \x7b".toList)
  /-- The message that reports a failing script is one literal. -/
  message : Module.liveClosing c.name = "\n    \x7d catch (error) \x7b\n      console.error(" ++
    Json.literal ("[" ++ c.name ++ "] Lifecycle Logic Error:") ++ ", error);\n    \x7d"
  /-- It is written to a file in the very directory that components are written to, unless the
  extension leads away from there. -/
  file : ∀ (e : Export) (source target : Path) (disk after : Disk) (suffix : Text),
    e.suffix = .ok suffix → '/' ∉ suffix → e.write c source disk = (.ok target, after) →
      e.directory disk source = .ok target.parent ∧
        target.names.getLast? = some (c.name ++ suffix)

/-- A component is written to the file of its name in the directory of the export. -/
theorem target_of_write {c : Conversion} {e : Export} {source target : Path} {disk after : Disk}
    {suffix : Text} (hsuffix : e.suffix = .ok suffix)
    (h : e.write c source disk = (.ok target, after)) :
    ∃ directory, e.directory disk source = .ok directory ∧
      target = directory.join (c.name ++ suffix) := by
  rw [Export.write_eq, Export.aim, hsuffix] at h
  dsimp only at h
  cases hdirectory : e.directory disk source with
  | error error => simp [hdirectory] at h
  | ok directory =>
    rw [hdirectory] at h
    dsimp only at h
    cases hall : disk.makeAll directory with
    | mk made refused? =>
      rw [hall] at h
      cases refused? with
      | some error => simp at h
      | none =>
        dsimp only at h
        split at h
        · simp at h
        · exact ⟨directory, rfl, (Except.ok.inj (Prod.ext_iff.1 h).1).symm⟩

theorem serves_of_isRootName {c : Conversion} {l : Layout} (hfollows : c.Follows l)
    (h : IsRootName c.name) : c.Serves := by
  obtain ⟨bundle, logic, hsource⟩ := hfollows.source
  refine ⟨⟨?_, Module.isComment_header h, Module.lines_header h⟩, ⟨?_, ?_⟩,
    Module.liveClosing_eq_literal h, ?_⟩
  · rw [hsource]
    exact Module.infix_assemble (by simp)
  · rw [hsource]
    exact (Module.exports_rootText c.name logic c.slots).trans (Module.infix_assemble (by simp))
  · exact Template.Reader.name?_append
      ⟨h.ne_nil, fun d hd => Template.isNameChar_of_isAlphanum (h.2.1 d hd)⟩ (by decide)
  · intro e source target disk after suffix hsuffix hslash hwrite
    obtain ⟨directory, hdirectory, rfl⟩ := target_of_write hsuffix hwrite
    have hname : '/' ∉ c.name ++ suffix :=
      List.not_mem_append (h.not_mem (by decide)) hslash
    have hne : c.name ++ suffix ≠ [] := List.append_ne_nil_of_left_ne_nil h.ne_nil _
    -- a name without a capital at its start is none
    have hdot : c.name ++ suffix ≠ ['.'] := by
      intro hdot
      obtain ⟨first, hfirst, hupper⟩ := (Option.any_eq_true _ _).1 h.1
      have hhead := congrArg List.head? hdot
      rw [List.head?_append, hfirst, Option.some_or, List.head?_cons, Option.some_inj] at hhead
      rw [hhead] at hupper
      cases hupper
    rw [Path.join_eq hname hne hdot, Path.parent, List.dropLast_concat, List.getLast?_concat]
    exact ⟨hdirectory, rfl⟩

theorem name_of_convert {settings : Settings} {markup artifact override : Text} {theme : Theme}
    {c : Conversion} (h : convert settings markup artifact override theme = .ok c) :
    c.name = nameOf settings artifact := by
  rw [convert] at h
  split at h
  · cases h
  · split at h
    · cases h
    next conversion hconversion =>
      cases h
      exact name_of_ofDocument hconversion

/-- The name of a component that is asked for can be used if the name of the artifact gives one that
can, in capitals and humps, or the settings give none in its place, or one that can be used; and in
no other case. A name that can be used serves wherever it stands. -/
theorem name_serves_iff {settings : Settings} {r : Request} {c : Conversion}
    (h : r.run settings = .ok c) :
    ∃ artifact, r.artifactName.toText .artifactName = .ok artifact ∧
      (IsRootName c.name ↔ IsRootName (Naming.pascalCase artifact) ∨ settings.defaultName = [] ∨
        IsRootName settings.defaultName) ∧
      (IsRootName c.name → c.Serves) := by
  rw [Request.run] at h
  split at h
  · cases h
  next markup artifact styles theme hcheck =>
    split at h
    · cases h
    next conversion hconvert =>
      cases h
      obtain ⟨read, -, hcheck⟩ := Except.bind_eq_ok.1 hcheck
      obtain ⟨name, hname, hcheck⟩ := Except.bind_eq_ok.1 hcheck
      obtain ⟨override, -, hcheck⟩ := Except.bind_eq_ok.1 hcheck
      obtain ⟨given, -, hcheck⟩ := Except.bind_eq_ok.1 hcheck
      cases hcheck
      obtain ⟨document, -, hfollows⟩ := follows_of_convert hconvert
      refine ⟨artifact, hname, ?_, serves_of_isRootName hfollows⟩
      rw [name_of_convert hconvert]
      exact isRootName_nameOf_iff settings artifact

/-- Neither the artifact nor the settings give a name. -/
theorem name_serves_iff_standard :
    ∃ c, Request.run ⟨Settings.standardBackend, [], .comment, .closes⟩
        { markup := .value (.string "<p>x</p>"), artifactName := .value .null } = .ok c ∧
      IsRootName c.name ∧ c.Serves := by
  have hsome : (Request.run ⟨Settings.standardBackend, [], .comment, .closes⟩
      { markup := .value (.string "<p>x</p>"),
        artifactName := .value .null }).toOption.isSome := by decide +kernel
  obtain ⟨c, hrun⟩ := Except.exists_ok_of_isSome hsome
  obtain ⟨artifact, -, hname, hserves⟩ := name_serves_iff hrun
  have hroot := hname.2 (.inr (.inl rfl))
  exact ⟨c, hrun, hroot, hserves hroot⟩

/-- A path that the settings give in the place of a name is written into the module, where it is no
name of a function, and leads out of the directory of the export. -/
theorem path_taken_as_name :
    ∃ c, Request.run ⟨Settings.standardBackend, "../app", .comment, .closes⟩
        { markup := .value (.string "<p>x</p>"),
          artifactName := .value (.string "1") } = .ok c ∧
      c.name = "../app" ∧ ¬ IsRootName c.name ∧ ¬ c.Serves ∧
      Path.join ⟨['/'], ["work", "out"]⟩ (c.name ++ ".jsx") =
        ⟨['/'], ["work", "out", "..", "app.jsx"]⟩ := by
  have hmap : (Request.run ⟨Settings.standardBackend, "../app", .comment, .closes⟩
      { markup := .value (.string "<p>x</p>"),
        artifactName := .value (.string "1") }).toOption.map Conversion.name =
          some "../app".toList := by decide +kernel
  obtain ⟨c, hoption, hname⟩ := Option.map_eq_some_iff.1 hmap
  obtain ⟨d, hrun⟩ := Except.exists_ok_of_isSome (Option.isSome_of_eq_some hoption)
  rw [hrun] at hoption
  cases hoption
  refine ⟨c, hrun, hname, by rw [hname]; decide +kernel, fun hserves => ?_, ?_⟩
  · have hread := hserves.function.2
    rw [hname] at hread
    exact absurd hread (by decide +kernel)
  · rw [hname]
    decide +kernel

end Conversion

end Componentry
