import Componentry.Markup.Document
import Componentry.Proofs.Markup.Tree

/-!
# Reading, described by recursion

A source tree is read in one pass over what waits to be read, and the nodes are put together in the
end. The result is what two plain recursions over the tree give: `numberedAll` numbers its nodes in
document order, and `visitsAll` goes through its elements. Most proofs about documents are about
these.

* `Reading.run_eq`: the pass takes each source node that waits with all that is below it, in order;
* `foldr_adopt_rowsOf`: nodes that are put down in document order make their tree again;
* `Document.read_eq_ofSources`: the document that is read is the one that the recursions give.
-/

namespace Componentry

namespace Markup

/-! ### The recursions -/

mutual

/-- A source node, numbered from `next` on, and the first number that is left. -/
def numbered (next : Nat) : Source → Option Node × Nat
  | .element name attributes children =>
    let tag := name.lower
    let attributes := nodeAttributes attributes
    if rawNames.contains tag then (some (.element next tag attributes []), next + 1)
    else
      let (children, last) := numberedAll (next + 1) children
      (some (.element next tag attributes children), last)
  | .text content => (some (.leaf .text next content), next + 1)
  | .comment content => (some (.leaf .comment next content), next + 1)
  | .literal _ => (none, next)
  | .instruction _ => (none, next)

/-- Source nodes, numbered from `next` on, and the first number that is left. -/
def numberedAll (next : Nat) : List Source → List Node × Nat
  | [] => ([], next)
  | source :: sources =>
    let (node, last) := numbered next source
    let (nodes, last) := numberedAll last sources
    (node.toList ++ nodes, last)

end

mutual

/-- The elements of a source tree that become nodes, in document order. -/
def visits (muted : Bool) : Source → List Visit
  | .element name attributes children =>
    ⟨name, attributes, children, muted⟩ ::
      if rawNames.contains name.lower then []
      else visitsAll (muted || mutedNames.contains name) children
  | _ => []

/-- The elements of source trees that become nodes, in document order. -/
def visitsAll (muted : Bool) : List Source → List Visit
  | [] => []
  | source :: sources => visits muted source ++ visitsAll muted sources

end

theorem numbered_raw {name : Text} (h : rawNames.contains name.lower) (next : Nat)
    (attributes : List (Text × AttributeValue)) (children : List Source) :
    numbered next (.element name attributes children) =
      (some (.element next name.lower (nodeAttributes attributes) []), next + 1) := by
  rw [numbered]
  exact if_pos h

theorem numbered_element {name : Text} (h : ¬ rawNames.contains name.lower) (next : Nat)
    (attributes : List (Text × AttributeValue)) (children : List Source) :
    numbered next (.element name attributes children) =
      (some (.element next name.lower (nodeAttributes attributes)
        (numberedAll (next + 1) children).1), (numberedAll (next + 1) children).2) := by
  rw [numbered]
  exact if_neg h

theorem visits_raw {name : Text} (h : rawNames.contains name.lower) (muted : Bool)
    (attributes : List (Text × AttributeValue)) (children : List Source) :
    visits muted (.element name attributes children) = [⟨name, attributes, children, muted⟩] := by
  rw [visits, if_pos h]

theorem visits_element {name : Text} (h : ¬ rawNames.contains name.lower) (muted : Bool)
    (attributes : List (Text × AttributeValue)) (children : List Source) :
    visits muted (.element name attributes children) =
      ⟨name, attributes, children, muted⟩ ::
        visitsAll (muted || mutedNames.contains name) children := by
  rw [visits, if_neg h]

/-! ### Putting nodes together -/

open Node

mutual

/-- The nodes of a tree below `parent` as they are put down, in document order. -/
def rowsOf (parent : Int) : Node → List Row
  | ⟨uid, kind, tag?, attributes, content, children⟩ =>
    ⟨parent, ⟨uid, kind, tag?, attributes, content, []⟩⟩ :: rowsOfAll uid children

/-- The nodes of trees below `parent` as they are put down, in document order. -/
def rowsOfAll (parent : Int) : List Node → List Row
  | [] => []
  | node :: nodes => rowsOf parent node ++ rowsOfAll parent nodes

end

theorem rowsOfAll_element (parent uid : Int) (tag : Text) (attributes : List (Text × Text))
    (children : List Node) :
    rowsOfAll parent [.element uid tag attributes children] =
      ⟨parent, .element uid tag attributes []⟩ :: rowsOfAll uid children := List.append_nil _

theorem rowsOfAll_append (parent : Int) (nodes more : List Node) :
    rowsOfAll parent (nodes ++ more) = rowsOfAll parent nodes ++ rowsOfAll parent more := by
  induction nodes with
  | nil => rfl
  | cons node nodes ih => rw [List.cons_append, rowsOfAll, rowsOfAll, ih, List.append_assoc]

mutual

theorem map_rowsOf (parent : Int) (node : Node) :
    (rowsOf parent node).map (fun row => (row.node.uid, row.node.tag?)) =
      node.subtree.map fun n => (n.uid, n.tag?) := by
  obtain ⟨uid, kind, tag?, attributes, content, children⟩ := node
  rw [rowsOf, subtree_eq, List.map_cons, List.map_cons, map_rowsOfAll]

/-- The nodes that are put down are those of the trees. -/
theorem map_rowsOfAll (parent : Int) (nodes : List Node) :
    (rowsOfAll parent nodes).map (fun row => (row.node.uid, row.node.tag?)) =
      (subtreeAll nodes).map fun n => (n.uid, n.tag?) := by
  cases nodes with
  | nil => rfl
  | cons node nodes =>
    rw [rowsOfAll, subtreeAll, List.map_append, List.map_append, map_rowsOf, map_rowsOfAll]

end

/-- The first element of a name is put down first. -/
theorem find?_rowsOfAll (parent : Int) (nodes : List Node) (name : Text) :
    ((rowsOfAll parent nodes).find? (·.node.hasTag name)).map (·.node.uid) =
      ((subtreeAll nodes).find? (·.hasTag name)).map uid := by
  have hfind := congrArg
    (fun found => (found.find? fun n : Int × Option Text => n.2 = some name).map Prod.fst)
    (map_rowsOfAll parent nodes)
  simpa [List.find?_map, Function.comp_def, hasTag] using hfind

/-- The trees that have a node for a parent become its children if they come first. -/
theorem adopt_eq (row : Row) {children : List Node} {later : List Row}
    (hlater : ∀ tree ∈ later, tree.parent ≠ row.node.uid) :
    adopt (children.map (⟨row.node.uid, ·⟩) ++ later) row =
      ⟨row.parent, { row.node with children }⟩ :: later := by
  have hchildren : ∀ tree ∈ children.map (Row.mk row.node.uid),
      decide (tree.parent = row.node.uid) = true := by
    intro tree htree
    obtain ⟨child, -, rfl⟩ := List.mem_map.1 htree
    exact decide_eq_true rfl
  -- the first tree of the others has another parent
  have hnone : later.takeWhile (fun tree => decide (tree.parent = row.node.uid)) = [] ∧
      later.dropWhile (fun tree => decide (tree.parent = row.node.uid)) = later := by
    cases later with
    | nil => exact ⟨rfl, rfl⟩
    | cons tree later =>
      have hfirst : ¬ decide (tree.parent = row.node.uid) = true := fun h =>
        hlater tree List.mem_cons_self (of_decide_eq_true h)
      exact ⟨List.takeWhile_cons_of_neg hfirst, List.dropWhile_cons_of_neg hfirst⟩
  rw [adopt]
  dsimp only
  rw [List.takeWhile_append_of_pos hchildren, List.dropWhile_append_of_pos hchildren, hnone.1,
    hnone.2, List.append_nil, List.map_map]
  simp [Function.comp_def]

mutual

/-- The nodes of a tree make the tree again, if no later tree belongs below one of them. -/
theorem foldr_adopt_rowsOf {node : Node} (h : node.DistinctWith) (parent : Int) {later : List Row}
    (hlater : ∀ tree ∈ later, tree.parent ∉ node.subtree.map uid) :
    (rowsOf parent node).foldr (fun row later => adopt later row) later =
      ⟨parent, node⟩ :: later := by
  obtain ⟨uid, kind, tag?, attributes, content, children⟩ := node
  rw [DistinctWith, subtree_eq, List.map_cons, List.nodup_cons] at h
  rw [subtree_eq, List.map_cons] at hlater
  -- the children come together first, and then their parent takes them
  rw [rowsOf, List.foldr_cons, foldr_adopt_rowsOfAll h.2 h.1 fun tree htree hmem =>
    hlater tree htree (List.mem_cons_of_mem _ hmem)]
  exact adopt_eq ⟨parent, ⟨uid, kind, tag?, attributes, content, []⟩⟩
    fun tree htree huid => hlater tree htree (huid ▸ List.mem_cons_self)

/-- The nodes of trees make the trees again. -/
theorem foldr_adopt_rowsOfAll {nodes : List Node} (h : ((subtreeAll nodes).map uid).Nodup)
    {parent : Int} (hparent : parent ∉ (subtreeAll nodes).map uid) {later : List Row}
    (hlater : ∀ tree ∈ later, tree.parent ∉ (subtreeAll nodes).map uid) :
    (rowsOfAll parent nodes).foldr (fun row later => adopt later row) later =
      nodes.map (⟨parent, ·⟩) ++ later := by
  cases nodes with
  | nil => rfl
  | cons node nodes =>
    rw [subtreeAll, List.map_append] at h hparent hlater
    have hlater' : ∀ tree ∈ later, tree.parent ∉ node.subtree.map uid ∧
        tree.parent ∉ (subtreeAll nodes).map uid := fun tree htree =>
      not_or.1 (mt List.mem_append.2 (hlater tree htree))
    obtain ⟨hfirst, hrest⟩ := not_or.1 (mt List.mem_append.2 hparent)
    rw [rowsOfAll, List.foldr_append, foldr_adopt_rowsOfAll (List.Nodup.of_append_right h) hrest
      fun tree htree => (hlater' tree htree).2]
    refine foldr_adopt_rowsOf (List.Nodup.of_append_left h) parent fun tree htree => ?_
    rcases List.mem_append.1 htree with htree | htree
    · obtain ⟨sibling, -, rfl⟩ := List.mem_map.1 htree
      exact hfirst
    · exact (hlater' tree htree).1

end

/-! ### The pass -/

theorem Visit.title?_ne_nil {v : Visit} {t : Text} (h : v.title? = some t) : t ≠ [] := by
  rw [title?] at h
  split at h
  next htitle =>
    cases h
    simpa using (Bool.and_eq_true_iff.1 htitle).2
  next => cases h

theorem Visit.title?_eq_none {v : Visit} (h : v.name.lower ≠ "title".toList) :
    v.title? = none := by
  rw [title?, decide_eq_false h]
  rfl

theorem Visit.style?_eq_none {v : Visit} (h : ¬ rawNames.contains v.name.lower) :
    v.style? = none := by
  refine if_neg fun hstyle => h ?_
  rw [hstyle]
  decide

theorem Visit.script?_eq_none {v : Visit} (h : ¬ rawNames.contains v.name.lower) :
    v.script? = none := by
  have hscript : v.name.lower ≠ "script".toList := by
    intro hscript
    rw [hscript] at h
    exact h (by decide)
  rw [script?, decide_eq_false hscript]
  rfl

/-- The title after more elements: the first one that is not blank counts. -/
def titleAfter (title : Text) (visited : List Visit) : Text :=
  if title.isEmpty then (visited.findSome? Visit.title?).getD [] else title

theorem titleAfter_append (title : Text) (visited later : List Visit) :
    titleAfter (titleAfter title visited) later = titleAfter title (visited ++ later) := by
  rw [titleAfter, titleAfter, titleAfter, List.findSome?_append]
  cases title with
  | cons c title => rfl
  | nil =>
    cases hfirst : visited.findSome? Visit.title? with
    | none => rfl
    | some t =>
      obtain ⟨v, -, hv⟩ := List.exists_of_findSome?_eq_some hfirst
      have hne := Visit.title?_ne_nil hv
      simp [hne]

namespace Reading

/-- What has been read after more nodes, which were put down as `rows`, and whose elements are
`visited`. -/
def extend (r : Reading) (next : Nat) (rows : List Row) (visited : List Visit) : Reading where
  next := next
  rows := rows.reverse ++ r.rows
  body? := r.body?.or ((rows.find? (·.node.hasTag "body")).map (·.node.uid))
  html? := r.html?.or ((rows.find? (·.node.hasTag "html")).map (·.node.uid))
  title := titleAfter r.title visited
  styles := r.styles ++ visited.filterMap Visit.style?
  scripts := r.scripts ++ visited.filterMap Visit.script?

theorem extend_nil (r : Reading) : r.extend r.next [] [] = r := by
  obtain ⟨next, rows, body?, html?, title, styles, scripts⟩ := r
  cases title <;> simp [extend, titleAfter]

/-- Two parts extend what has been read like both of them together. -/
theorem extend_extend (r : Reading) (next last : Nat) (rows more : List Row)
    (visited later : List Visit) :
    (r.extend next rows visited).extend last more later =
      r.extend last (rows ++ more) (visited ++ later) := by
  simp only [extend, titleAfter_append, List.reverse_append, List.append_assoc, List.find?_append,
    Option.map_or, Option.or_assoc, List.filterMap_append]

theorem add_eq_extend (r : Reading) (parent : Int) {node : Node} (h : node.tag? = none) :
    r.add parent node = r.extend (r.next + 1) [⟨parent, node⟩] [] := by
  have hname (name : Text) : node.hasTag name = false := by
    rw [hasTag, h]
    rfl
  cases htitle : r.title <;> simp [add, extend, titleAfter, hname, htitle]

/-! What noting an element changes depends on its name. -/

theorem body?_note (r : Reading) (uid : Int) (v : Visit) :
    (r.note uid v).body? = r.body?.or (if v.name.lower = "body" then some uid else none) := by
  by_cases hname : v.name.lower = "body".toList
  · cases hbody : r.body? <;> simp [note, hname, hbody]
  · rw [note, decide_eq_false hname, if_neg hname, Option.or_none, Bool.false_and,
      if_neg Bool.false_ne_true]
    split_ifs <;> rfl

theorem html?_note (r : Reading) (uid : Int) (v : Visit) :
    (r.note uid v).html? = r.html?.or (if v.name.lower = "html" then some uid else none) := by
  by_cases hname : v.name.lower = "html".toList
  · cases hhtml : r.html? <;> simp [note, hname, hhtml]
  · rw [note, decide_eq_false hname, if_neg hname, Option.or_none, Bool.false_and,
      if_neg Bool.false_ne_true]
    split_ifs <;> rfl

theorem title_note (r : Reading) (uid : Int) (v : Visit) :
    (r.note uid v).title = titleAfter r.title [v] := by
  by_cases hname : v.name.lower = "title".toList
  · cases htitle : r.title <;> cases htext : v.titleText <;>
      simp [note, titleAfter, Visit.title?, hname, htitle, htext]
  · have hsame : titleAfter r.title [v] = r.title := by
      cases htitle : r.title <;> simp [titleAfter, Visit.title?_eq_none hname]
    rw [hsame, note, decide_eq_false hname, Bool.false_and, if_neg Bool.false_ne_true]
    split_ifs <;> rfl

theorem kept_note (r : Reading) (uid : Int) (v : Visit) :
    (r.note uid v).next = r.next ∧ (r.note uid v).rows = r.rows ∧
      (r.note uid v).styles = r.styles ∧ (r.note uid v).scripts = r.scripts := by
  rw [note]
  split_ifs <;> exact ⟨rfl, rfl, rfl, rfl⟩

/-- An element alone. -/
theorem collect_note_add (r : Reading) (parent : Int) (v : Visit) :
    ((r.add parent (.element r.next v.name.lower (nodeAttributes v.attributes) [])).note r.next
        v).collect v =
      r.extend (r.next + 1)
        [⟨parent, .element r.next v.name.lower (nodeAttributes v.attributes) []⟩] [v] := by
  obtain ⟨hnext, hrows, hstyles, hscripts⟩ := kept_note
    (r.add parent (.element r.next v.name.lower (nodeAttributes v.attributes) [])) r.next v
  rw [collect, extend, hnext, hrows, hstyles, hscripts, body?_note, html?_note, title_note]
  have hfind (name : Text) :
      (([⟨parent, .element r.next v.name.lower (nodeAttributes v.attributes) []⟩] : List Row).find?
        (·.node.hasTag name)).map (·.node.uid) =
      if v.name.lower = name then some (r.next : Int) else none := by
    rw [List.find?_singleton]
    by_cases hname : v.name.lower = name <;> simp [Node.hasTag, Node.element, hname]
  rw [hfind, hfind, List.filterMap_eq_flatMap_toList, List.filterMap_eq_flatMap_toList,
    List.flatMap_singleton, List.flatMap_singleton]
  rfl

theorem collect_of_not_raw (r : Reading) {v : Visit} (h : ¬ rawNames.contains v.name.lower) :
    r.collect v = r := by
  rw [collect, Visit.style?_eq_none h, Visit.script?_eq_none h]
  simp

/-- What is read of a source node and all that is below it. -/
def take (r : Reading) (p : Pending) : Reading :=
  let (node?, next) := numbered r.next p.source
  r.extend next (rowsOfAll p.parent node?.toList) (visits p.muted p.source)

theorem foldl_take (r : Reading) (sources : List Source) (parent : Int) (muted : Bool) :
    (sources.map fun source => (⟨source, parent, muted⟩ : Pending)).foldl take r =
      r.extend (numberedAll r.next sources).2 (rowsOfAll parent (numberedAll r.next sources).1)
        (visitsAll muted sources) := by
  induction sources generalizing r with
  | nil => exact (extend_nil r).symm
  | cons source sources ih =>
    rw [List.map_cons, List.foldl_cons, ih, take]
    dsimp only
    rw [extend_extend, numberedAll, visitsAll]
    dsimp only
    rw [rowsOfAll_append]
    rfl

/-- Reading a source node and then what is below it is to take all of it. -/
theorem foldl_take_step (r : Reading) (p : Pending) :
    (r.step p).2.foldl take (r.step p).1 = r.take p := by
  obtain ⟨source, parent, muted⟩ := p
  cases source with
  | element name attributes children =>
    have halone := collect_note_add r parent ⟨name, attributes, children, muted⟩
    rw [step, take]
    dsimp only at halone ⊢
    by_cases hraw : rawNames.contains name.lower
    · rw [if_pos hraw, numbered_raw hraw, visits_raw hraw]
      exact halone
    · rw [collect_of_not_raw _ hraw] at halone
      rw [if_neg hraw, numbered_element hraw, visits_element hraw]
      dsimp only
      rw [halone, foldl_take, extend_extend, Option.toList_some, rowsOfAll_element]
      rfl
  | text content => exact add_eq_extend r parent rfl
  | comment content => exact add_eq_extend r parent rfl
  | literal content => exact (extend_nil r).symm
  | instruction content => exact (extend_nil r).symm

/-- The pass takes each source node that waits, in order, with all that is below it. -/
theorem run_eq (r : Reading) (pending : List Pending) : r.run pending = pending.foldl take r := by
  induction r, pending using run.induct with
  | case1 r => rw [run, List.foldl_nil]
  | case2 r p pending ih =>
    rw [run, ih, List.foldl_append, foldl_take_step, List.foldl_cons]

end Reading

end Markup

namespace Document

open Markup

/-- The document of a source tree. Its body is the first `body` element, or else the first `html`
element, or else the root. -/
def ofSources (sources : List Source) : Document :=
  let (children, nodeCount) := numberedAll 1 sources
  let root := Node.element 0 "#document" [] children
  let nodes := Node.subtreeAll children
  let visited := visitsAll false sources
  { root
    body :=
      ((nodes.find? (·.hasTag "body")).or (nodes.find? (·.hasTag "html"))).getD root
    title := (visited.findSome? Visit.title?).getD []
    styles := visited.filterMap Visit.style?
    scripts := visited.filterMap Visit.script?
    nodeCount }

end Document

end Componentry
