import Componentry.Proofs.State.Inference
import Componentry.Proofs.Template.Piece
import Componentry.Proofs.Template.Tag

/-!
# Templates are read back

A template is read as the tree that it was emitted from, less what emitting leaves out. Nothing in
the texts, comments, attributes and styles of a document is ever taken for structure.

* `Emitter.trees`: what the template of a node is to be read as;
* `Emitter.reads_of_mem_pieces`: every piece of a template is read as the tokens that it stands for;
* `Emitter.build_pieces`: the tokens of a node make up its trees, wherever they stand;
* `Emitter.read_emit`: the template of a node is read as its trees.
-/

namespace Componentry

open Template.Reader

/-- An element can be read back: its tag is a name, and no attribute has a name with a line feed. -/
def Node.IsReadable (node : Node) : Prop :=
  (∃ tag ∈ node.tag?, IsName tag) ∧ ∀ pair ∈ node.attributes, '\n' ∉ pair.1
  deriving Decidable

namespace Template

/-! ### Pieces -/

namespace Emitter

/-- What the props of an element are to be read as. If the props have no text, nothing is emitted
that could be read. -/
def props (e : Emitter) (node : Node) : Props :=
  ((e.fragments node).toOption.getD []).map Fragment.shown

/-- The props of the use of a unit. -/
def unitProps : Props := [("state", .braced "state"), ("update", .braced "update")]

/-- What a piece is to be read as. -/
def tokens (e : Emitter) : Piece → List Token
  | .opening node => [.opening (tagName node.tag?) (e.props node) (e.isChildless node)]
  | .closing tag? => [.closing (tagName tag?)]
  | .text node => (Text.trim node.content).map .char
  | .comment node => [.comment (defuseComment (Text.trim node.content))]
  | .reference _ name => [.opening name unitProps true]

/-- A piece is read as what it is to be read as, whatever follows it. -/
def Reads (e : Emitter) (piece : Piece) : Prop :=
  ∀ text rest, e.render piece = .ok text →
    lex (text ++ rest) = (lex rest).map (e.tokens piece ++ ·)

theorem reads_text (e : Emitter) (node : Node) : e.Reads (.text node) := by
  intro text rest h
  cases h
  exact lex_escapeText _ rest

theorem reads_comment (e : Emitter) (node : Node) : e.Reads (.comment node) := by
  intro text rest h
  cases h
  exact lex_append (token?_comment node.content rest) (List.cons_ne_nil _ _)

theorem reads_closing (e : Emitter) {tag? : Option Text} (h : IsName (tagName tag?)) :
    e.Reads (.closing tag?) := by
  intro text rest htext
  cases htext
  refine lex_append ?_ (List.cons_ne_nil _ _)
  rw [closeTag, List.append_assoc, List.append_assoc]
  exact token?_closing h rest

theorem reads_reference (e : Emitter) (uid : Int) {name : Text} (h : IsName name) :
    e.Reads (.reference uid name) := by
  intro text rest htext
  cases htext
  refine lex_append ?_ (List.cons_ne_nil _ _)
  have hprops : ∀ prop ∈ ["state".toList, "update".toList], ∀ rest,
      prop? (prop ++ ['=', '\x7b'] ++ prop ++ ['\x7d'] ++ rest) =
        some ((prop, .braced prop), rest) := by
    intro prop hprop rest
    refine prop?_constant ?_ rest
    revert prop
    decide
  rw [Template.reference, List.append_assoc, List.append_assoc]
  exact token?_opening h hprops true rest

/-- The props of an element that is written are read as themselves. -/
theorem reads_of_mem_fragments {e : Emitter} (hkeys : ∀ field ∈ e.fields, IsName field.key)
    {node : Node} (hattributes : ∀ pair ∈ node.attributes, '\n' ∉ pair.1) {props : List Fragment}
    (h : e.fragments node = .ok props) {f : Fragment} (hf : f ∈ props) : f.Reads := by
  rcases mem_fragments h hf with ⟨pair, hpair, hattribute⟩ | ⟨field, hfield, hbinding⟩
  · refine reads_of_isPlain ?_ hattribute.plain
    rw [hattribute.name_eq]
    exact isName_propName hattribute.hasProp (hattributes pair hpair)
  · exact reads_of_mem_binding (hkeys field (Field.find?_eq_some hfield).1) hbinding

theorem reads_opening {e : Emitter} (hkeys : ∀ field ∈ e.fields, IsName field.key) {node : Node}
    (hname : IsName (tagName node.tag?)) (hattributes : ∀ pair ∈ node.attributes, '\n' ∉ pair.1) :
    e.Reads (.opening node) := by
  intro text rest htext
  obtain ⟨props, hprops, rfl⟩ := Except.map_eq_ok.1 htext
  have hreads : ∀ f ∈ props, ∀ rest, prop? (f.render ++ rest) = some (f.shown, rest) :=
    fun f hf => prop?_render (reads_of_mem_fragments hkeys hattributes hprops hf)
  -- the tag has been written, so its props have a text
  have hshown : e.props node = props.map Fragment.shown := by
    rw [Emitter.props, hprops]
    rfl
  refine lex_append ?_ (List.cons_ne_nil _ _)
  rw [hshown, List.append_assoc, List.append_assoc, List.append_assoc]
  exact token?_opening hname hreads (e.isChildless node) rest

/-- Every piece of a template is read as what it is to be read as. -/
theorem reads_of_mem_pieces {e : Emitter} (hkeys : ∀ field ∈ e.fields, IsName field.key)
    (hunits : ∀ unit ∈ e.units, IsName unit.2) {root : Int} {node : Node}
    (hnodes : ∀ n ∈ node.subtree, n.kind = .element → n.IsReadable) {piece : Piece}
    (h : piece ∈ e.pieces root node) : e.Reads piece := by
  obtain ⟨n, hn, hown⟩ := exists_own_of_mem_pieces h
  cases hown with
  | text => exact reads_text e n
  | comment => exact reads_comment e n
  | reference _ hunit =>
    have hmem := List.mem_of_lookup_eq_some (lookup_eq_some_of_unitAt hunit)
    exact reads_reference e n.uid (hunits _ hmem)
  | opening hkind =>
    obtain ⟨htag, hattributes⟩ := hnodes n hn hkind
    exact reads_opening hkeys (isName_tagName htag) hattributes
  | closing hkind => exact reads_closing e (isName_tagName (hnodes n hn hkind).1)

/-- A template is read as the tokens of its pieces. -/
theorem lex_renderAll {e : Emitter} {pieces : List Piece} (h : ∀ piece ∈ pieces, e.Reads piece)
    {text : Text} (htext : e.renderAll pieces = .ok text) :
    lex text = some (pieces.flatMap e.tokens) := by
  induction pieces generalizing text with
  | nil =>
    cases htext
    rw [lex]
    rfl
  | cons piece pieces ih =>
    obtain ⟨hpiece, hpieces⟩ := List.forall_mem_cons.1 h
    rw [renderAll_cons] at htext
    obtain ⟨first, hfirst, htext⟩ := Except.bind_eq_ok.1 htext
    obtain ⟨rest, hrest, rfl⟩ := Except.map_eq_ok.1 htext
    rw [hpiece first rest hfirst, ih hpieces hrest]
    rfl

/-! ### Trees -/

mutual

/-- What the template of a node is to be read as, in the unit with the root `root`: blank texts and
what is left out of a component are gone, other units are used under their names, and texts that
have come to follow each other are one. -/
def trees (e : Emitter) (root : Int) : Node → List Tree
  | ⟨uid, kind, tag?, attributes, content, children⟩ =>
    let node : Node := ⟨uid, kind, tag?, attributes, content, children⟩
    match kind with
    | .text => if (Text.trim content).isEmpty then [] else [.text (Text.trim content)]
    | .comment => [.comment (defuseComment (Text.trim content))]
    | .element =>
      match e.unitAt root uid with
      | some name => [.closed name unitProps]
      | none =>
        if node.isDropped then []
        else if e.isChildless node then [.closed (tagName tag?) (e.props node)]
        else [.element (tagName tag?) (e.props node) (merge (treesAll e root children))]

/-- What the templates of some nodes are to be read as, one after the other. -/
def treesAll (e : Emitter) (root : Int) : List Node → List Tree
  | [] => []
  | node :: nodes => trees e root node ++ treesAll e root nodes

end

/-- The tokens of some nodes make up their trees, if those of each node make up its own. -/
theorem build_piecesAll {e : Emitter} {root : Int} {nodes : List Node}
    (h : ∀ node ∈ nodes, ∀ stack done tokens,
      build stack done ((e.pieces root node).flatMap e.tokens ++ tokens) =
        build stack ((e.trees root node).foldl push done) tokens)
    (stack : List Frame) (done : List Tree) (tokens : List Token) :
    build stack done ((e.piecesAll root nodes).flatMap e.tokens ++ tokens) =
      build stack ((e.treesAll root nodes).foldl push done) tokens := by
  induction nodes generalizing done with
  | nil => rfl
  | cons node nodes ih =>
    obtain ⟨hnode, hnodes⟩ := List.forall_mem_cons.1 h
    rw [piecesAll, treesAll, List.flatMap_append, List.append_assoc, List.foldl_append, hnode,
      ih hnodes]

/-- The tokens of a node make up its trees, wherever they stand. -/
theorem build_pieces (e : Emitter) (root : Int) (node : Node) (stack : List Frame)
    (done : List Tree) (tokens : List Token) :
    build stack done ((e.pieces root node).flatMap e.tokens ++ tokens) =
      build stack ((e.trees root node).foldl push done) tokens := by
  induction node using Node.induct generalizing stack done tokens with
  | step node ih =>
    obtain ⟨uid, kind, tag?, attributes, content, children⟩ := node
    have hchildren := build_piecesAll ih
    cases kind with
    | text =>
      rw [pieces, trees]
      split
      · rfl
      next hblank =>
        -- the text is not blank, so it has a first character to start a tree with
        obtain ⟨c, t, htrim⟩ := List.exists_cons_of_ne_nil (mt List.isEmpty_iff.2 hblank)
        rw [List.flatMap_singleton, Emitter.tokens, htrim]
        exact build_chars stack done c t tokens
    | comment =>
      rw [pieces, trees, List.flatMap_singleton, Emitter.tokens, List.singleton_append, build]
      rfl
    | element =>
      rw [pieces, trees]
      cases hunit : e.unitAt root uid with
      | some name =>
        dsimp only
        rw [List.flatMap_singleton, Emitter.tokens, List.singleton_append, build, if_pos rfl]
        rfl
      | none =>
        dsimp only
        split
        · rfl
        · split
          next hchildless =>
            rw [List.flatMap_singleton, Emitter.tokens, List.singleton_append, build,
              if_pos hchildless]
            rfl
          next hchildless =>
            -- what is inside the element is put together above it on the stack
            rw [List.flatMap_cons, List.flatMap_append, List.flatMap_singleton, Emitter.tokens,
              Emitter.tokens, List.append_assoc, List.append_assoc, List.singleton_append, build,
              if_neg hchildless, hchildren, List.singleton_append, build, if_pos rfl]
            rfl

/-- The template of a node is read as its trees, to its end and with all elements closed. -/
theorem read_emit {e : Emitter} (hkeys : ∀ field ∈ e.fields, IsName field.key)
    (hunits : ∀ unit ∈ e.units, IsName unit.2) {root : Node}
    (hnodes : ∀ n ∈ root.subtree, n.kind = .element → n.IsReadable) {text : Text}
    (h : e.emit root = .ok text) : Reader.read text = some (merge (e.trees root.uid root)) := by
  rw [emit_eq] at h
  have hlex := lex_renderAll (fun piece => reads_of_mem_pieces hkeys hunits hnodes) h
  have hbuild := e.build_pieces root.uid root [] [] []
  rw [List.append_nil] at hbuild
  rw [Reader.read, hlex, Option.bind_some, hbuild, build, merge]

theorem read_emit_form :
    let e : Emitter := ⟨[⟨"name", "name", .text [], 2⟩], [(5, "Menu")]⟩
    let form : Node := .element 0 "form" [("class", "\"a\" & b")] [
      .leaf .comment 1 " a */ b ", .element 2 "input" [] [], .leaf .text 3 " {a} ",
      .leaf .text 4 "<b>", .element 5 "nav" [] []]
    (∀ field ∈ e.fields, IsName field.key) ∧ (∀ unit ∈ e.units, IsName unit.2) ∧
      (∀ n ∈ form.subtree, n.kind = .element → n.IsReadable) ∧
      ∃ text, e.emit form = .ok text ∧ Reader.read text = some [
        .element "form" [("className", .quoted "\"a\" & b")] [
          .comment "a * / b",
          .closed "input" [
            ("value", .braced "state.name"),
            ("onChange", .braced "(e) => update(\"name\", e.target.value)")],
          .text "{a}<b>",
          .closed "Menu" [("state", .braced "state"), ("update", .braced "update")]]] := by
  intro e form
  have hkeys : ∀ field ∈ e.fields, IsName field.key := by decide +kernel
  have hunits : ∀ unit ∈ e.units, IsName unit.2 := by decide +kernel
  have hnodes : ∀ n ∈ form.subtree, n.kind = .element → n.IsReadable := by decide +kernel
  have hemit : (e.emit form).toOption.isSome := by decide +kernel
  cases h : e.emit form with
  | error error =>
    rw [h] at hemit
    cases hemit
  | ok text => exact ⟨hkeys, hunits, hnodes, text, rfl, read_emit hkeys hunits hnodes h⟩

end Emitter

end Template

end Componentry
