import Componentry.Proofs.Markup.Tree
import Componentry.Proofs.Outcome
import Componentry.Template.Emit
import Mathlib.Data.List.Flatten

/-!
# The pieces of a template

The template of a node is a sequence of pieces, each of which is written in one go: opening and
closing tags, texts, comments, and uses of other units. `Emitter.pieces` lists them by recursion on
the node, and emitting, which keeps a list of the work that is left, writes exactly these pieces in
this order:

* `Emitter.run_eq`: a run writes what it has done and then the pieces of the work that is left;
* `Emitter.emit_eq`: the template of a node consists of its pieces;
* `Emitter.emits_pieces`: the ways in which a node is written, one case for each;
* `Emitter.ownPiece_mem_pieces_iff`: which nodes the template of a node writes;
* `Emitter.written_sublist`: it writes nodes in document order, each at most once.
-/

namespace Componentry.Template

/-- A part of a template that is written in one go. -/
inductive Piece
  /-- The opening tag of an element. -/
  | opening (node : Node)
  /-- The closing tag of an element. -/
  | closing (tag? : Option Text)
  /-- A text that is not blank. -/
  | text (node : Node)
  /-- A comment. -/
  | comment (node : Node)
  /-- The use of the unit `name` whose root has the number `uid`. -/
  | reference (uid : Int) (name : Text)

namespace Piece

/-- The node that a piece writes: an opening tag its element, a text or a comment itself. -/
def node? : Piece → Option Node
  | .opening node => some node
  | .text node => some node
  | .comment node => some node
  | _ => none

end Piece

namespace Emitter

/-- The unit that stands for the node with the number `uid` inside the unit with the root `root`. -/
def unitAt (e : Emitter) (root uid : Int) : Option Text :=
  if uid = root then none else e.units.lookup uid

/-- The text of a piece. -/
def render (e : Emitter) : Piece → Except Numeral.IntegerError Text
  | .opening node => e.openTag node
  | .closing tag? => .ok (closeTag tag?)
  | .text node => .ok (escapeText (Text.trim node.content))
  | .comment node => .ok (Template.comment node.content)
  | .reference _ name => .ok (Template.reference name)

/-- The text of some pieces. -/
def renderAll (e : Emitter) (pieces : List Piece) : Except Numeral.IntegerError Text :=
  (pieces.mapM e.render).map List.flatten

mutual

/-- The pieces of a node and of what is below it, in the unit with the root `root`. -/
def pieces (e : Emitter) (root : Int) : Node → List Piece
  | ⟨uid, kind, tag?, attributes, content, children⟩ =>
    let node : Node := ⟨uid, kind, tag?, attributes, content, children⟩
    match kind with
    | .text => if (Text.trim content).isEmpty then [] else [.text node]
    | .comment => [.comment node]
    | .element =>
      match e.unitAt root uid with
      | some name => [.reference uid name]
      | none =>
        if node.isDropped then []
        else if e.isChildless node then [.opening node]
        else .opening node :: (piecesAll e root children ++ [.closing tag?])

/-- The pieces of some nodes and of what is below them, in the unit with the root `root`. -/
def piecesAll (e : Emitter) (root : Int) : List Node → List Piece
  | [] => []
  | node :: nodes => pieces e root node ++ piecesAll e root nodes

end

theorem piecesAll_eq_flatMap (e : Emitter) (root : Int) (nodes : List Node) :
    e.piecesAll root nodes = nodes.flatMap (e.pieces root) := by
  induction nodes with
  | nil => rfl
  | cons node nodes ih => rw [piecesAll, ih, List.flatMap_cons]

/-! ### The pieces of a node of each kind -/

theorem pieces_text (e : Emitter) (root : Int) {node : Node} (hkind : node.kind = .text) :
    e.pieces root node = if (Text.trim node.content).isEmpty then [] else [.text node] := by
  cases node
  cases hkind
  rfl

theorem pieces_comment (e : Emitter) (root : Int) {node : Node} (hkind : node.kind = .comment) :
    e.pieces root node = [.comment node] := by
  cases node
  cases hkind
  rfl

theorem pieces_unit {e : Emitter} {root : Int} {node : Node} {name : Text}
    (hkind : node.kind = .element) (hunit : e.unitAt root node.uid = some name) :
    e.pieces root node = [.reference node.uid name] := by
  cases node
  cases hkind
  simp only [pieces, hunit]

theorem pieces_dropped {e : Emitter} {root : Int} {node : Node} (hkind : node.kind = .element)
    (hunit : e.unitAt root node.uid = none) (hdropped : node.isDropped) :
    e.pieces root node = [] := by
  cases node
  cases hkind
  simp only [pieces, hunit, hdropped, if_true]

theorem pieces_childless {e : Emitter} {root : Int} {node : Node} (hkind : node.kind = .element)
    (hunit : e.unitAt root node.uid = none) (hdropped : ¬ node.isDropped)
    (hchildless : e.isChildless node) : e.pieces root node = [.opening node] := by
  cases node
  cases hkind
  simp only [pieces, hunit, hdropped, hchildless, if_true]
  rfl

theorem pieces_open {e : Emitter} {root : Int} {node : Node} (hkind : node.kind = .element)
    (hunit : e.unitAt root node.uid = none) (hdropped : ¬ node.isDropped)
    (hchildless : ¬ e.isChildless node) :
    e.pieces root node =
      .opening node :: (e.piecesAll root node.children ++ [.closing node.tag?]) := by
  cases node
  cases hkind
  simp only [pieces, hunit, hdropped, hchildless]
  rfl

/-! ### Emitting writes the pieces -/

@[simp]
theorem renderAll_nil (e : Emitter) : e.renderAll [] = .ok [] := rfl

theorem renderAll_cons (e : Emitter) (piece : Piece) (pieces : List Piece) :
    e.renderAll (piece :: pieces) =
      (e.render piece).bind fun text => (e.renderAll pieces).map (text ++ ·) := by
  simp only [renderAll, List.mapM_cons]
  cases e.render piece with
  | error error => rfl
  | ok text => cases pieces.mapM e.render <;> rfl

theorem renderAll_singleton (e : Emitter) (piece : Piece) :
    e.renderAll [piece] = e.render piece := by
  rw [renderAll_cons]
  cases e.render piece <;> simp [Except.bind, Except.map]

/-- Pieces have a text if each of them has one. -/
theorem exists_renderAll_iff {e : Emitter} {pieces : List Piece} :
    (∃ text, e.renderAll pieces = .ok text) ↔
      ∀ piece ∈ pieces, ∃ text, e.render piece = .ok text := by
  induction pieces with
  | nil => simp
  | cons piece pieces ih =>
    rw [List.forall_mem_cons, ← ih]
    constructor
    · rintro ⟨text, h⟩
      rw [renderAll_cons] at h
      obtain ⟨first, hfirst, h⟩ := Except.bind_eq_ok.1 h
      obtain ⟨rest, hrest, -⟩ := Except.map_eq_ok.1 h
      exact ⟨⟨first, hfirst⟩, ⟨rest, hrest⟩⟩
    · rintro ⟨⟨first, hfirst⟩, ⟨rest, hrest⟩⟩
      exact ⟨first ++ rest, by rw [renderAll_cons, hfirst, hrest]; rfl⟩

/-- The pieces of work that is left. -/
def workPieces (e : Emitter) (root : Int) : Work → List Piece
  | .node node => e.pieces root node
  | .close tag? => [.closing tag?]

theorem workPieces_nodes (e : Emitter) (root : Int) (nodes : List Node) :
    (nodes.map Work.node).flatMap (e.workPieces root) = e.piecesAll root nodes := by
  rw [piecesAll_eq_flatMap, List.flatMap_map]
  rfl

/-- What a run has written comes before the text of the work that is left. -/
private theorem renderAll_step (e : Emitter) (piece : Piece) {text : Text}
    (h : e.render piece = .ok text) (done : List Text) (pieces : List Piece) :
    (e.renderAll pieces).map ((text :: done).reverse.flatten ++ ·) =
      (e.renderAll (piece :: pieces)).map (done.reverse.flatten ++ ·) := by
  rw [renderAll_cons, h]
  cases e.renderAll pieces <;> simp [Except.bind, Except.map]

/-- A run writes what it has done, and then the pieces of the work that is left. -/
theorem run_eq (e : Emitter) (root : Int) (done : List Text) (work : List Work) :
    e.run root done work =
      (e.renderAll (work.flatMap (e.workPieces root))).map (done.reverse.flatten ++ ·) := by
  fun_induction run e root done work with
  | case1 done => simp [Except.map]
  | case2 done tag? work ih =>
    rw [ih, List.flatMap_cons]
    exact renderAll_step e _ rfl done _
  | case3 done node work hkind ih =>
    rw [ih, List.flatMap_cons, workPieces, pieces_text e root hkind]
    split
    next hblank =>
      -- a blank text has no piece, and writing it adds nothing
      rw [List.isEmpty_iff.1 hblank]
      simp [escapeText]
    next => exact renderAll_step e _ rfl done _
  | case4 done node work hkind ih =>
    rw [ih, List.flatMap_cons, workPieces, pieces_comment e root hkind]
    exact renderAll_step e _ rfl done _
  | case5 done node work hkind name hunit ih =>
    rw [ih, List.flatMap_cons, workPieces, pieces_unit hkind hunit]
    exact renderAll_step e _ rfl done _
  | case6 done node work hkind hunit hdropped ih =>
    rw [ih, List.flatMap_cons, workPieces, pieces_dropped hkind hunit hdropped]
    rfl
  | case7 done node work hkind hunit hdropped error herror =>
    rw [List.flatMap_cons, workPieces]
    by_cases hchildless : e.isChildless node
    · rw [pieces_childless hkind hunit hdropped hchildless, List.cons_append, renderAll_cons,
        render, herror]
      rfl
    · rw [pieces_open hkind hunit hdropped hchildless, List.cons_append, renderAll_cons, render,
        herror]
      rfl
  | case8 done node work hkind hunit hdropped opening hopening hchildless ih =>
    rw [ih, List.flatMap_cons, workPieces, pieces_childless hkind hunit hdropped hchildless]
    exact renderAll_step e (.opening node) hopening done _
  | case9 done node work hkind hunit hdropped opening hopening hchildless ih =>
    -- what is inside the element becomes work that is left, before its closing tag
    simp only [List.map_subtype, List.unattach_attach] at ih
    rw [ih, List.flatMap_append, workPieces_nodes, List.flatMap_cons, List.flatMap_cons, workPieces,
      workPieces, pieces_open hkind hunit hdropped hchildless,
      renderAll_step e (.opening node) hopening]
    simp only [List.cons_append, List.append_assoc, List.nil_append]

/-- The template of a node consists of the pieces of the node. -/
theorem emit_eq (e : Emitter) (root : Node) :
    e.emit root = e.renderAll (e.pieces root.uid root) := by
  rw [emit, run_eq]
  simp only [List.flatMap_cons, List.flatMap_nil, workPieces, List.append_nil, List.reverse_nil,
    List.flatten_nil, List.nil_append]
  cases e.renderAll (e.pieces root.uid root) <;> rfl

/-! ### The nodes that are written -/

/-- Emitting the unit with the root `root` goes on below the element `node`. -/
structure Passes (e : Emitter) (root : Int) (node : Node) : Prop where
  /-- The node is an element. -/
  element : node.kind = .element
  /-- It is not the root of another unit. -/
  unit : e.unitAt root node.uid = none
  /-- It is not left out. -/
  kept : ¬ node.isDropped
  /-- It has content. -/
  content : ¬ e.isChildless node

/-- Emitting the unit with the root `root` writes `node` when it gets there. -/
structure Shows (e : Emitter) (root : Int) (node : Node) : Prop where
  /-- An element that is the root of another unit is not written. -/
  unit : node.kind = .element → e.unitAt root node.uid = none
  /-- An element that is left out is not written. -/
  kept : node.kind = .element → ¬ node.isDropped
  /-- Blank text is not written. -/
  text : node.kind = .text → ¬ (Text.trim node.content).isEmpty

/-- The pieces of a node, with one case for each way in which a node is emitted. -/
inductive Emits (e : Emitter) (root : Int) (node : Node) : List Piece → Prop
  /-- A blank text has no piece. -/
  | blank : node.kind = .text → (Text.trim node.content).isEmpty → Emits e root node []
  /-- Any other text has one. -/
  | text : node.kind = .text → ¬ (Text.trim node.content).isEmpty → Emits e root node [.text node]
  /-- So has a comment. -/
  | comment : node.kind = .comment → Emits e root node [.comment node]
  /-- The root of another unit is replaced by the use of that unit. -/
  | unit {name : Text} : node.kind = .element → e.unitAt root node.uid = some name →
      Emits e root node [.reference node.uid name]
  /-- An element that is left out has no piece. -/
  | dropped : node.kind = .element → e.unitAt root node.uid = none → node.isDropped →
      Emits e root node []
  /-- An element without content has its opening tag only. -/
  | childless : node.kind = .element → e.unitAt root node.uid = none → ¬ node.isDropped →
      e.isChildless node → Emits e root node [.opening node]
  /-- Any other element has the pieces of its children between its tags. -/
  | content : e.Passes root node → Emits e root node
      (.opening node :: (node.children.flatMap (e.pieces root) ++ [.closing node.tag?]))

theorem emits_pieces (e : Emitter) (root : Int) (node : Node) :
    e.Emits root node (e.pieces root node) := by
  cases hkind : node.kind with
  | text =>
    rw [pieces_text e root hkind]
    split
    next hblank => exact .blank hkind hblank
    next hblank => exact .text hkind hblank
  | comment =>
    rw [pieces_comment e root hkind]
    exact .comment hkind
  | element =>
    cases hunit : e.unitAt root node.uid with
    | some name =>
      rw [pieces_unit hkind hunit]
      exact .unit hkind hunit
    | none =>
      by_cases hdropped : node.isDropped
      · rw [pieces_dropped hkind hunit hdropped]
        exact .dropped hkind hunit hdropped
      · by_cases hchildless : e.isChildless node
        · rw [pieces_childless hkind hunit hdropped hchildless]
          exact .childless hkind hunit hdropped hchildless
        · rw [pieces_open hkind hunit hdropped hchildless, piecesAll_eq_flatMap]
          exact .content ⟨hkind, hunit, hdropped, hchildless⟩

/-- The piece that writes a node. -/
def ownPiece (node : Node) : Piece :=
  match node.kind with
  | .element => .opening node
  | .text => .text node
  | .comment => .comment node

theorem node?_ownPiece (node : Node) : (ownPiece node).node? = some node := by
  cases h : node.kind <;> simp [ownPiece, h, Piece.node?]

/-- A node that is written when emitting gets there is written by its own piece, and all other
pieces that its subtree adds are those of its children, if emitting goes on below it. -/
theorem mem_pieces_iff {e : Emitter} {root : Int} {node n : Node} {piece : Piece}
    (hpiece : piece.node? = some n) :
    piece ∈ e.pieces root node ↔
      e.Shows root node ∧ piece = ownPiece node ∨
        e.Passes root node ∧ ∃ child ∈ node.children, piece ∈ e.pieces root child := by
  have hemits := e.emits_pieces root node
  generalize e.pieces root node = pieces at hemits
  cases hemits with
  | blank hkind hblank =>
    refine iff_of_false List.not_mem_nil ?_
    rintro (⟨hshows, -⟩ | ⟨hpasses, -⟩)
    · exact hshows.text hkind hblank
    · cases hkind.symm.trans hpasses.element
  | text hkind hblank =>
    have hshows : e.Shows root node := ⟨by simp [hkind], by simp [hkind], fun _ => hblank⟩
    have hstop : ¬ e.Passes root node := fun hpasses => by cases hkind.symm.trans hpasses.element
    simp [ownPiece, hkind, hshows, hstop]
  | comment hkind =>
    have hshows : e.Shows root node := ⟨by simp [hkind], by simp [hkind], by simp [hkind]⟩
    have hstop : ¬ e.Passes root node := fun hpasses => by cases hkind.symm.trans hpasses.element
    simp [ownPiece, hkind, hshows, hstop]
  | unit hkind hunit =>
    -- the use of a unit writes no node
    refine iff_of_false (fun hmem => ?_) ?_
    · obtain rfl := List.mem_singleton.1 hmem
      cases hpiece
    · rintro (⟨hshows, -⟩ | ⟨hpasses, -⟩)
      · cases hunit.symm.trans (hshows.unit hkind)
      · cases hunit.symm.trans hpasses.unit
  | dropped hkind hunit hdropped =>
    refine iff_of_false List.not_mem_nil ?_
    rintro (⟨hshows, -⟩ | ⟨hpasses, -⟩)
    · exact hshows.kept hkind hdropped
    · exact hpasses.kept hdropped
  | childless hkind hunit hdropped hchildless =>
    have hshows : e.Shows root node := ⟨fun _ => hunit, fun _ => hdropped, by simp [hkind]⟩
    have hstop : ¬ e.Passes root node := fun hpasses => hpasses.content hchildless
    simp [ownPiece, hkind, hshows, hstop]
  | content hpasses =>
    have hshows : e.Shows root node :=
      ⟨fun _ => hpasses.unit, fun _ => hpasses.kept, by simp [hpasses.element]⟩
    have hclosing : piece ≠ .closing node.tag? := by
      rintro rfl
      cases hpiece
    simp [ownPiece, hpasses.element, hshows, hpasses, hclosing]

/-- The template of `node` writes the nodes that emitting gets to and that are written. -/
theorem ownPiece_mem_pieces_iff {e : Emitter} {root : Int} {node n : Node} :
    ownPiece n ∈ e.pieces root node ↔ Node.LeadsBy (e.Passes root) node n ∧ e.Shows root n := by
  induction node using Node.induct with
  | step node ih =>
    rw [mem_pieces_iff (node?_ownPiece n)]
    constructor
    · rintro (⟨hshows, hown⟩ | ⟨hpasses, child, hchild, hmem⟩)
      · -- a piece writes one node only
        have hn : n = node := by
          have := node?_ownPiece n
          rw [hown, node?_ownPiece] at this
          exact (Option.some.inj this).symm
        subst hn
        exact ⟨.self n, hshows⟩
      · obtain ⟨hleads, hshows⟩ := (ih child hchild).1 hmem
        exact ⟨.child hpasses hchild hleads, hshows⟩
    · rintro ⟨hleads, hshows⟩
      rcases Node.leadsBy_iff.1 hleads with rfl | ⟨hpasses, child, hchild, hleads⟩
      · exact .inl ⟨hshows, rfl⟩
      · exact .inr ⟨hpasses, child, hchild, (ih child hchild).2 ⟨hleads, hshows⟩⟩

/-- A node is only ever written by its own piece. -/
theorem eq_ownPiece_of_mem {e : Emitter} {root : Int} {node n : Node} {piece : Piece}
    (h : piece ∈ e.pieces root node) (hpiece : piece.node? = some n) : piece = ownPiece n := by
  induction node using Node.induct with
  | step node ih =>
    rcases (mem_pieces_iff hpiece).1 h with ⟨-, rfl⟩ | ⟨-, child, hchild, hmem⟩
    · rw [node?_ownPiece] at hpiece
      rw [Option.some.inj hpiece]
    · exact ih child hchild hmem

/-- The pieces that a node may have besides those of its children. -/
inductive Own (e : Emitter) (root : Int) (node : Node) : Piece → Prop
  /-- A text is written as itself. -/
  | text : node.kind = .text → Own e root node (.text node)
  /-- So is a comment. -/
  | comment : node.kind = .comment → Own e root node (.comment node)
  /-- An element may be the root of another unit, which is used. -/
  | reference {name : Text} : node.kind = .element → e.unitAt root node.uid = some name →
      Own e root node (.reference node.uid name)
  /-- If not, it may have an opening tag. -/
  | opening : node.kind = .element → Own e root node (.opening node)
  /-- It may have a closing tag. -/
  | closing : node.kind = .element → Own e root node (.closing node.tag?)

/-- Every piece is that of a node. -/
theorem exists_own_of_mem_pieces {e : Emitter} {root : Int} {node : Node} {piece : Piece}
    (h : piece ∈ e.pieces root node) : ∃ n ∈ node.subtree, e.Own root n piece := by
  induction node using Node.induct with
  | step node ih =>
    have hself := node.mem_subtree_self
    have hemits := e.emits_pieces root node
    generalize e.pieces root node = pieces at h hemits
    cases hemits with
    | blank => cases h
    | text hkind =>
      rw [List.mem_singleton.1 h]
      exact ⟨node, hself, .text hkind⟩
    | comment hkind =>
      rw [List.mem_singleton.1 h]
      exact ⟨node, hself, .comment hkind⟩
    | unit hkind hunit =>
      rw [List.mem_singleton.1 h]
      exact ⟨node, hself, .reference hkind hunit⟩
    | dropped => cases h
    | childless hkind =>
      rw [List.mem_singleton.1 h]
      exact ⟨node, hself, .opening hkind⟩
    | content hpasses =>
      rw [List.mem_cons, List.mem_append, List.mem_flatMap, List.mem_singleton] at h
      rcases h with rfl | ⟨child, hchild, hmem⟩ | rfl
      · exact ⟨node, hself, .opening hpasses.element⟩
      · -- the piece of a child is that of a node below
        obtain ⟨n, hn, hown⟩ := ih child hchild hmem
        have hbelow := Node.mem_descendants_of_child hchild hn
        exact ⟨n, Node.mem_subtree_iff.2 (.inr hbelow), hown⟩
      · exact ⟨node, hself, .closing hpasses.element⟩

theorem lookup_eq_some_of_unitAt {e : Emitter} {root uid : Int} {name : Text}
    (h : e.unitAt root uid = some name) : e.units.lookup uid = some name := by
  rw [unitAt] at h
  split at h
  · cases h
  · exact h

/-- The units that a template uses are known by their names. -/
theorem mem_units_of_reference {e : Emitter} {root uid : Int} {node : Node} {name : Text}
    (h : .reference uid name ∈ e.pieces root node) : e.units.lookup uid = some name := by
  obtain ⟨n, -, hown⟩ := exists_own_of_mem_pieces h
  cases hown with
  | reference _ hunit => exact lookup_eq_some_of_unitAt hunit

/-- The nodes that some pieces write. -/
def written (pieces : List Piece) : List Node := pieces.filterMap Piece.node?

theorem mem_written_pieces_iff {e : Emitter} {root : Int} {node n : Node} :
    n ∈ written (e.pieces root node) ↔ Node.LeadsBy (e.Passes root) node n ∧ e.Shows root n := by
  rw [written, List.mem_filterMap, ← ownPiece_mem_pieces_iff]
  constructor
  · rintro ⟨piece, hmem, hpiece⟩
    exact eq_ownPiece_of_mem hmem hpiece ▸ hmem
  · intro hmem
    exact ⟨ownPiece n, hmem, node?_ownPiece n⟩

/-- The nodes that the template of a node writes stand in document order, none of them twice. -/
theorem written_sublist (e : Emitter) (root : Int) (node : Node) :
    (written (e.pieces root node)).Sublist node.subtree := by
  induction node using Node.induct with
  | step node ih =>
    rw [Node.subtree_eq_cons]
    have hemits := e.emits_pieces root node
    generalize e.pieces root node = pieces at hemits
    cases hemits with
    | blank => exact List.nil_sublist _
    | text => exact (List.nil_sublist _).cons_cons node
    | comment => exact (List.nil_sublist _).cons_cons node
    | unit => exact List.nil_sublist _
    | dropped => exact List.nil_sublist _
    | childless => exact (List.nil_sublist _).cons_cons node
    | content =>
      rw [Node.descendants, Node.subtreeAll_eq_flatMap]
      -- a closing tag writes no node of its own
      have hclosing : written [Piece.closing node.tag?] = [] := rfl
      simp only [written, List.filterMap_cons, Piece.node?, List.filterMap_append,
        List.filterMap_flatMap] at ih hclosing ⊢
      rw [hclosing, List.append_nil]
      exact (List.Sublist.flatMap_right _ ih).cons_cons node

end Emitter

end Componentry.Template
