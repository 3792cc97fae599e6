import Componentry.Proofs.Component.Layout
import Componentry.Proofs.Unit.Naming

/-!
# The names of a module

A module imports some names, declares two constants and one component for each unit, and exports the
root component. The name of a unit is none of the others, whatever the nodes of the document are
called:

* `Module.not_mem_fixedNames`: the names that all modules have are no names of units;
* `Module.names_assemble`: what the text of a module declares, and what it exports;
* `Conversion.names_units_apart`: the names of the units of a conversion are kept apart from each
  other and from all other names of its module.
-/

namespace Componentry

namespace Module

/-- The names that every module imports. -/
def importedNames : List Text := ["React", "useCallback", "useEffect", "useState"]

/-- The constants that every module declares besides its units. -/
def constantNames : List Text := ["GLOBAL_STYLES", "INITIAL_STATE"]

/-- The text of a module declares a constant of that name. -/
def Declares (source name : Text) : Prop := "const ".toList ++ name ++ " = ".toList <:+: source

/-- The text of a module exports a component of that name. -/
def Exports (source name : Text) : Prop :=
  "export default function ".toList ++ name ++ "() \x7b".toList <:+: source

/-- The names that all modules have are no names of units: hooks start with a small letter, and the
others are reserved. -/
theorem not_mem_fixedNames {name : Text} (hname : IsComponentName name)
    (hfree : name ∉ reservedNames) : name ∉ importedNames ++ constantNames := by
  obtain ⟨c, hhead, hupper⟩ := hname.capital
  intro hmem
  have hfixed : ∀ fixed ∈ importedNames ++ constantNames,
      fixed ∈ reservedNames ∨ fixed.head?.any (!·.isUpper) := by decide +kernel
  rcases hfixed name hmem with hreserved | hsmall
  · exact hfree hreserved
  · rw [hhead, Option.any_some, hupper] at hsmall
    cases hsmall

/-! ### What the parts of a module declare -/

theorem declares_styleConstant (bundle : Text) :
    Declares (styleConstant bundle) "GLOBAL_STYLES" := by
  have hopening :
      "/* Core Design System Tokens & Custom Styles */\nconst GLOBAL_STYLES = \x60\n".toList =
        "/* Core Design System Tokens & Custom Styles */\n".toList ++
          ("const ".toList ++ "GLOBAL_STYLES".toList ++ " = ".toList) ++ "\x60\n".toList := by
    decide
  unfold styleConstant
  rw [hopening, List.append_assoc, List.append_assoc]
  exact List.infix_append _ _ _

theorem declares_initialState (fields : List Field) :
    Declares (initialState fields) "INITIAL_STATE" := by
  have hempty : "const INITIAL_STATE = \x7b\x7d;".toList =
      "const ".toList ++ "INITIAL_STATE".toList ++ " = ".toList ++ "\x7b\x7d;".toList := by decide
  have hopening : "const INITIAL_STATE = \x7b\n".toList =
      "const ".toList ++ "INITIAL_STATE".toList ++ " = ".toList ++ "\x7b\n".toList := by decide
  unfold initialState
  split
  · rw [hempty]
    exact (List.prefix_append _ _).isInfix
  · rw [hopening, List.append_assoc, List.append_assoc]
    exact (List.prefix_append _ _).isInfix

theorem declares_unitText (unit : ComponentUnit) : Declares (unitText unit) unit.name := by
  have hbefore : "\n */\nconst ".toList = "\n */\n".toList ++ "const ".toList := by decide
  have hafter : " = (\x7b state, update \x7d) => (\n  ".toList =
      " = ".toList ++ "(\x7b state, update \x7d) => (\n  ".toList := by decide
  unfold unitText
  rw [hbefore, hafter]
  exact ⟨"/**\n * ".toList ++ unit.name ++ " Sub-component\n * ".toList ++
      unitNote unit.stateful ++ "\n */\n".toList,
    "(\x7b state, update \x7d) => (\n  ".toList ++ unit.body ++ "\n);".toList, by
    simp only [List.append_assoc]⟩

theorem exports_rootText (component logic slots : Text) :
    Exports (rootText component logic slots) component := by
  obtain ⟨rest, hrest⟩ : ∃ rest, rootOpening = "() \x7b".toList ++ rest := ⟨_, rfl⟩
  unfold rootText
  rw [hrest]
  simp only [List.append_assoc]
  rw [← List.append_assoc, ← List.append_assoc]
  exact (List.prefix_append _ _).isInfix

/-- What a module names: all modules have the same import and the same two constants; besides these
it declares its units and exports its root component. -/
structure Names (source component : Text) (units : List Text) : Prop where
  /-- It has the import. -/
  imported : importLine <:+: source
  /-- It declares the constants. -/
  constants : ∀ name ∈ constantNames, Declares source name
  /-- It declares the units. -/
  units : ∀ name ∈ units, Declares source name
  /-- It exports the root component. -/
  exported : Exports source component

theorem names_assemble (component bundle logic slots : Text) (fields : List Field)
    (units : List ComponentUnit) :
    Names (assemble component bundle fields units (rootText component logic slots)) component
      (units.map ComponentUnit.name) := by
  refine ⟨infix_assemble (by simp), fun name hname => ?_, fun name hname => ?_, ?_⟩
  · rcases List.mem_pair.1 hname with rfl | rfl
    · exact (declares_styleConstant bundle).trans (infix_assemble (by simp))
    · exact (declares_initialState fields).trans (infix_assemble (by simp))
  · obtain ⟨unit, hunit, rfl⟩ := List.mem_map.1 hname
    have hpart : unitText unit ∈ units.map unitText := List.mem_map_of_mem hunit
    exact (declares_unitText unit).trans
      (infix_assemble (List.mem_append_left _ (List.mem_append_right _ hpart)))
  · exact (exports_rootText component logic slots).trans (infix_assemble (by simp))

end Module

namespace Conversion

theorem Follows.names_eq {c : Conversion} {l : Layout} (h : c.Follows l) :
    c.units.map ComponentUnit.name = l.claims.map Claim.name :=
  h.units.map_eq_map fun _ _ hunit => hunit.name

/-- No two units of a conversion have the same name, and none has that of the root component or of
anything else that the module imports or declares. -/
theorem names_units_apart {settings : Settings} {markup artifact override : Text} {theme : Theme}
    {c : Conversion} (h : convert settings markup artifact override theme = .ok c) :
    (c.units.map ComponentUnit.name).Nodup ∧
      (∀ unit ∈ c.units, IsComponentName unit.name ∧ unit.name ≠ c.name ∧
        unit.name ∉ Module.importedNames ++ Module.constantNames) ∧
      Module.Names c.source c.name (c.units.map ComponentUnit.name) := by
  obtain ⟨document, -, hfollows⟩ := follows_of_convert h
  refine ⟨?_, fun unit hunit => ?_, ?_⟩
  · rw [hfollows.names_eq]
    exact nodup_names_decompose ..
  · -- a unit has the name of a claim
    have hname : unit.name ∈ (decompose document.body [c.name]).map Claim.name :=
      hfollows.names_eq ▸ List.mem_map_of_mem hunit
    obtain ⟨claim, hclaim, heq⟩ := List.mem_map.1 hname
    have hfree := not_mem_taken_of_mem_decompose hclaim
    rw [← heq]
    rw [List.mem_append, not_or, List.mem_singleton] at hfree
    have hshape := isComponentName_of_mem_decompose hclaim
    exact ⟨hshape, hfree.2, Module.not_mem_fixedNames hshape hfree.1⟩
  · obtain ⟨bundle, logic, hsource⟩ := hfollows.source
    rw [hsource]
    exact Module.names_assemble ..

/-- The root component is called what the only unit would be called. -/
theorem names_units_apart_nav :
    ∃ c, convert Settings.default "<nav>a</nav>".toList "nav1".toList [] Theme.default = .ok c ∧
      c.name = "Nav1".toList ∧ c.units.map ComponentUnit.name = ["Nav1_2".toList] ∧
      (∀ unit ∈ c.units, IsComponentName unit.name ∧ unit.name ≠ c.name ∧
        unit.name ∉ Module.importedNames ++ Module.constantNames) := by
  have hnames : (convert Settings.default "<nav>a</nav>".toList "nav1".toList [] Theme.default).map
      (fun c => (c.name, c.units.map ComponentUnit.name)) =
        .ok ("Nav1".toList, ["Nav1_2".toList]) := by decide +kernel
  obtain ⟨c, hok, heq⟩ := Except.map_eq_ok.1 hnames
  obtain ⟨hname, hunits⟩ := Prod.mk.inj heq
  exact ⟨c, hok, hname, hunits, (names_units_apart hok).2.1⟩

end Conversion

end Componentry
