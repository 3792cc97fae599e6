import Componentry.Proofs.Markup.Reading
import Componentry.Proofs.Markup.Source

/-!
# The numbers of a document

Reading a markup text numbers the nodes of the document from zero in document order, and gives a tag
to every element, which below the root is the name of an element, and children to elements only. So
every document that is read is well formed in the sense of
`Document.WellFormed`, which is all that later stages need to know of it:

* `Markup.numberedAll_uids`: the numbers of a forest are consecutive;
* `Document.uids_ofSources`: the numbers of a document are those below its number of nodes;
* `Document.wellFormed_of_parse`: a document that is read is well formed.
-/

namespace Componentry

/-- A node has what its kind asks for: an element has a tag, and nothing else has a tag or
children. -/
structure Node.Tidy (node : Node) : Prop where
  /-- An element has a tag. -/
  tag_of_element : node.kind = .element → ∃ tag, node.tag? = some tag
  /-- What is no element has no tag. -/
  no_tag : node.kind ≠ .element → node.tag? = none
  /-- What is no element has no children. -/
  no_children : node.kind ≠ .element → node.children = []

theorem Node.tidy_element (uid : Int) (tag : Text) (attributes : List (Text × Text))
    (children : List Node) : (Node.element uid tag attributes children).Tidy :=
  ⟨fun _ => ⟨tag, rfl⟩, fun h => absurd rfl h, fun h => absurd rfl h⟩

theorem Node.tidy_leaf {kind : NodeKind} (hkind : kind ≠ .element) (uid : Int) (content : Text) :
    (Node.leaf kind uid content).Tidy :=
  ⟨fun h => absurd h hkind, fun _ => rfl, fun _ => rfl⟩

theorem Node.elementsAll_eq_flatMap (nodes : List Node) :
    elementsAll nodes = nodes.flatMap elements := by
  induction nodes with
  | nil => rfl
  | cons node nodes ih => rw [elementsAll, ih, List.flatMap_cons]

theorem Node.elements_eq (node : Node) :
    node.elements = if node.kind = .element then node :: elementsAll node.children else [] := by
  cases node
  rfl

/-- In a tree of tidy nodes, all elements are reached through elements. -/
theorem Node.mem_elements_iff {root n : Node} (h : ∀ node ∈ root.subtree, node.Tidy) :
    n ∈ root.elements ↔ n ∈ root.subtree ∧ n.kind = .element := by
  induction root using Node.induct with
  | step root ih =>
    rw [elements_eq, mem_subtree_iff, mem_descendants_iff_child]
    split
    · next hkind =>
      have hbelow : ∀ child ∈ root.children, n ∈ child.elements ↔
          n ∈ child.subtree ∧ n.kind = .element := fun child hchild => ih child hchild
        fun node hnode => h node (mem_subtree_iff.2 (.inr (mem_descendants_of_child hchild hnode)))
      rw [List.mem_cons, elementsAll_eq_flatMap, List.mem_flatMap]
      constructor
      · rintro (rfl | ⟨child, hchild, hn⟩)
        · exact ⟨.inl rfl, hkind⟩
        · obtain ⟨hmem, hn⟩ := (hbelow child hchild).1 hn
          exact ⟨.inr ⟨child, hchild, hmem⟩, hn⟩
      · rintro ⟨rfl | ⟨child, hchild, hmem⟩, hn⟩
        · exact .inl rfl
        · exact .inr ⟨child, hchild, (hbelow child hchild).2 ⟨hmem, hn⟩⟩
    · next hkind =>
      -- nothing is below what is no element
      rw [(h root (mem_subtree_self root)).no_children hkind]
      constructor
      · intro hmem
        cases hmem
      · rintro ⟨rfl | ⟨child, hchild, -⟩, hn⟩
        · exact absurd hn hkind
        · cases hchild

/-- A node that has a tag is named as elements are. -/
def Node.IsNamed (node : Node) : Prop := ∀ tag, node.tag? = some tag → Markup.IsTagName tag

theorem Node.isNamed_element {tag : Text} (h : Markup.IsTagName tag) (uid : Int)
    (attributes : List (Text × Text)) (children : List Node) :
    (Node.element uid tag attributes children).IsNamed := by
  intro other hother
  cases hother
  exact h

theorem Node.isNamed_leaf (kind : NodeKind) (uid : Int) (content : Text) :
    (Node.leaf kind uid content).IsNamed := by
  intro tag htag
  cases htag

/-- A document whose nodes are tidy and have numbers of their own, and whose body is one of them.
All nodes but the root are named as elements are. -/
structure Document.WellFormed (d : Document) : Prop where
  /-- No two nodes have the same number. -/
  distinct : d.root.DistinctWith
  /-- The body is a node of the document. -/
  body_mem : d.body ∈ d.root.subtree
  /-- Every node is tidy. -/
  tidy : ∀ node ∈ d.root.subtree, node.Tidy
  /-- Every element below the root has the name of an element. -/
  named : ∀ node ∈ d.root.descendants, node.IsNamed

namespace Markup

open Node

@[simp]
theorem subtreeAll_singleton (node : Node) : subtreeAll [node] = node :: node.descendants := by
  simp [subtreeAll_eq_flatMap, subtree_eq_cons]

mutual

/-- The nodes of a source node are numbered consecutively from `next` on. -/
theorem numbered_uids (next : Nat) (source : Source) :
    ∃ count, (numbered next source).2 = next + count ∧
      (subtreeAll (numbered next source).1.toList).map uid =
        (List.range' next count).map Int.ofNat := by
  cases source with
  | element name attributes children =>
    by_cases hraw : rawNames.contains name.lower
    · -- nothing is numbered below an element whose content is raw
      rw [numbered_raw hraw]
      exact ⟨1, by simp [Node.element, descendants, subtreeAll]⟩
    · obtain ⟨count, hlast, huids⟩ := numberedAll_uids (next + 1) children
      rw [numbered_element hraw]
      -- the element takes the first number, and its children those after it
      refine ⟨count + 1, by simp only [hlast]; omega, ?_⟩
      simp [Node.element, descendants, huids, List.range'_succ]
  | text content => exact ⟨1, by simp [numbered, leaf, descendants, subtreeAll]⟩
  | comment content => exact ⟨1, by simp [numbered, leaf, descendants, subtreeAll]⟩
  | literal content => exact ⟨0, by simp [numbered, subtreeAll]⟩
  | instruction content => exact ⟨0, by simp [numbered, subtreeAll]⟩

/-- The nodes of source nodes are numbered consecutively from `next` on. -/
theorem numberedAll_uids (next : Nat) (sources : List Source) :
    ∃ count, (numberedAll next sources).2 = next + count ∧
      (subtreeAll (numberedAll next sources).1).map uid =
        (List.range' next count).map Int.ofNat := by
  cases sources with
  | nil => exact ⟨0, by simp [numberedAll, subtreeAll]⟩
  | cons source sources =>
    obtain ⟨count, hlast, huids⟩ := numbered_uids next source
    obtain ⟨more, hmore, huidsMore⟩ := numberedAll_uids (numbered next source).2 sources
    -- the second run starts where the first one has stopped
    refine ⟨count + more, ?_, ?_⟩
    · rw [numberedAll, hmore, hlast, Nat.add_assoc]
    · simp only [numberedAll, subtreeAll_eq_flatMap, List.flatMap_append, List.map_append]
      rw [← subtreeAll_eq_flatMap, ← subtreeAll_eq_flatMap, huids, huidsMore, hlast,
        ← List.map_append, List.range'_append_1]

end

mutual

/-- The nodes that tidy source nodes become are tidy, and named as elements are. -/
theorem numbered_tidy (next : Nat) {source : Source} (h : source.Tidy) :
    ∀ node ∈ subtreeAll (numbered next source).1.toList, node.Tidy ∧ node.IsNamed := by
  cases source with
  | element name attributes children =>
    obtain ⟨hname, hchildren⟩ := h
    have hnamed : IsTagName name.lower := hname.lower.symm ▸ hname
    by_cases hraw : rawNames.contains name.lower
    · -- raw content makes an element without children
      rw [numbered_raw hraw]
      intro node hnode
      simp [descendants, Node.element, subtreeAll] at hnode
      exact hnode ▸ ⟨tidy_element .., isNamed_element hnamed _ _ _⟩
    · rw [numbered_element hraw]
      intro node hnode
      simp [descendants] at hnode
      rcases hnode with rfl | hnode
      · exact ⟨tidy_element .., isNamed_element hnamed _ _ _⟩
      · exact numberedAll_tidy (next + 1) hchildren node hnode
  | text content =>
    intro node hnode
    simp [numbered, leaf, descendants, subtreeAll] at hnode
    exact hnode ▸ ⟨tidy_leaf (by decide) .., isNamed_leaf _ _ _⟩
  | comment content =>
    intro node hnode
    simp [numbered, leaf, descendants, subtreeAll] at hnode
    exact hnode ▸ ⟨tidy_leaf (by decide) .., isNamed_leaf _ _ _⟩
  | literal content => simp [numbered, subtreeAll]
  | instruction content => simp [numbered, subtreeAll]

/-- The nodes that tidy source nodes become are tidy, and named as elements are. -/
theorem numberedAll_tidy (next : Nat) {sources : List Source}
    (h : ∀ source ∈ sources, source.Tidy) :
    ∀ node ∈ subtreeAll (numberedAll next sources).1, node.Tidy ∧ node.IsNamed := by
  cases sources with
  | nil => simp [numberedAll, subtreeAll]
  | cons source sources =>
    obtain ⟨hsource, hsources⟩ := List.forall_mem_cons.1 h
    intro node hnode
    simp only [numberedAll, subtreeAll_eq_flatMap, List.flatMap_append, List.mem_append] at hnode
    simp only [← subtreeAll_eq_flatMap] at hnode
    rcases hnode with hnode | hnode
    · exact numbered_tidy next hsource node hnode
    · exact numberedAll_tidy _ hsources node hnode

end

end Markup

namespace Document

open Markup Node

/-- The nodes of a document are numbered from zero on in document order. -/
theorem uids_ofSources (sources : List Source) :
    (ofSources sources).root.subtree.map uid =
      (List.range (ofSources sources).nodeCount).map Int.ofNat := by
  obtain ⟨count, hlast, huids⟩ := numberedAll_uids 1 sources
  rw [subtree_eq_cons, List.map_cons]
  simp only [ofSources, descendants, Node.element, huids, hlast]
  -- the root takes zero, and the nodes below it the numbers from one on
  rw [Nat.add_comm, List.range_eq_range', List.range'_succ]
  rfl

theorem distinct_ofSources (sources : List Source) : (ofSources sources).root.DistinctWith := by
  rw [DistinctWith, uids_ofSources]
  exact List.nodup_range.map fun _ _ h => Int.ofNat.inj h

theorem body_mem_ofSources (sources : List Source) :
    (ofSources sources).body ∈ (ofSources sources).root.subtree := by
  let nodes := subtreeAll (numberedAll 1 sources).1
  -- the body is the first body, the first root element, or the root of the document itself
  rw [mem_subtree_iff]
  change ((nodes.find? (·.hasTag "body")).or (nodes.find? (·.hasTag "html"))).getD _ = _ ∨
    ((nodes.find? (·.hasTag "body")).or (nodes.find? (·.hasTag "html"))).getD _ ∈ nodes
  cases hbody : nodes.find? (·.hasTag "body") with
  | some body => exact .inr (List.mem_of_find?_eq_some hbody)
  | none =>
    cases hhtml : nodes.find? (·.hasTag "html") with
    | some html => exact .inr (List.mem_of_find?_eq_some hhtml)
    | none => exact .inl rfl

/-- The document is made of the numbered trees, and the body is looked up by its number. -/
theorem document_extend {nodes : List Node} (hnodup : ((subtreeAll nodes).map uid).Nodup)
    (hroot : (0 : Int) ∉ (subtreeAll nodes).map uid) (next : Nat) (visited : List Visit) :
    (Reading.start.extend next (rowsOfAll 0 nodes) visited).document =
      { root := .element 0 "#document" [] nodes
        body := (((subtreeAll nodes).find? (·.hasTag "body")).or
          ((subtreeAll nodes).find? (·.hasTag "html"))).getD (.element 0 "#document" [] nodes)
        title := (visited.findSome? Visit.title?).getD []
        styles := visited.filterMap Visit.style?
        scripts := visited.filterMap Visit.script?
        nodeCount := next } := by
  have htrees : ((rowsOfAll 0 nodes).reverse ++ []).foldl adopt [] = nodes.map (Row.mk 0) := by
    rw [List.append_nil, List.foldl_reverse,
      foldr_adopt_rowsOfAll hnodup hroot (List.forall_mem_nil _), List.append_nil]
  let root := Node.element 0 "#document" [] nodes
  have hdistinct : root.DistinctWith := List.nodup_cons.2 ⟨hroot, hnodup⟩
  -- the nodes have numbers of their own, so that each is found again by its number
  have hlookup (found : Option Node) (hfound : ∀ n ∈ found, n ∈ subtreeAll nodes) :
      (found.map uid).bind (fun number => root.subtree.find? (·.uid = number)) = found := by
    cases found with
    | none => rfl
    | some n => exact hdistinct.find?_uid (List.mem_cons_of_mem _ (hfound n rfl))
  rw [Reading.document]
  simp only [Reading.extend, Reading.start, htrees, find?_rowsOfAll, Option.none_or, List.map_map,
    Function.comp_def, List.map_id', ← Option.map_or]
  rw [hlookup]
  · rfl
  · intro n hn
    rcases Option.or_eq_some_iff.1 hn with hbody | ⟨-, hhtml⟩
    · exact List.mem_of_find?_eq_some hbody
    · exact List.mem_of_find?_eq_some hhtml

/-- A document is read as the recursions over its source tree say. -/
theorem read_eq_ofSources (sources : List Source) : read sources = ofSources sources := by
  have hdistinct := distinct_ofSources sources
  rw [DistinctWith, subtree_eq_cons, List.map_cons, List.nodup_cons] at hdistinct
  rw [read, Reading.run_eq, Reading.foldl_take]
  exact document_extend hdistinct.2 hdistinct.1 _ _

theorem tidy_ofSources {sources : List Source} (h : ∀ source ∈ sources, source.Tidy) :
    ∀ node ∈ (ofSources sources).root.subtree, node.Tidy := by
  intro node hnode
  rcases mem_subtree_iff.1 hnode with rfl | hnode
  · exact tidy_element ..
  · exact (numberedAll_tidy 1 h node hnode).1

theorem named_ofSources {sources : List Source} (h : ∀ source ∈ sources, source.Tidy) :
    ∀ node ∈ (ofSources sources).root.descendants, node.IsNamed :=
  fun node hnode => (numberedAll_tidy 1 h node hnode).2

/-- A document that is read is well formed. -/
theorem wellFormed_of_parse {rule : SlashRule} {markup : Text} {d : Document}
    (h : parse rule markup = .ok d) : d.WellFormed := by
  rw [parse] at h
  -- the byte order marks are gone before anything is read
  cases hsources : sources rule (markup.filter (· ≠ '\uFEFF')) with
  | error rejection => rw [hsources] at h; cases h
  | ok tree =>
    rw [hsources] at h
    cases h
    rw [read_eq_ofSources]
    have htidy := tidy_of_sources hsources
    exact ⟨distinct_ofSources tree, body_mem_ofSources tree, tidy_ofSources htidy,
      named_ofSources htidy⟩

namespace WellFormed

variable {d : Document}

/-- No two nodes below the body have the same number. -/
theorem body_distinct (h : d.WellFormed) : d.body.Distinct := by
  rcases mem_subtree_iff.1 h.body_mem with hroot | hbody
  · rw [hroot]
    exact h.distinct.distinct
  · exact (h.distinct.distinct.distinctWith_of_mem hbody).distinct

theorem tidy_of_descendant (h : d.WellFormed) {node : Node} (hnode : node ∈ d.body.descendants) :
    node.Tidy :=
  h.tidy node (mem_subtree_iff.2 (.inr (descendants_subset_of_mem h.body_mem hnode)))

theorem named_of_descendant (h : d.WellFormed) {node : Node} (hnode : node ∈ d.body.descendants) :
    node.IsNamed :=
  h.named node (descendants_subset_of_mem h.body_mem hnode)

end WellFormed

end Document

end Componentry
