import Componentry.Proofs.Template.Refusal

/-!
# Emitting by a list of work

A template could be emitted by recursion on the tree. Emitting keeps a list of the work that is left
instead, in which nodes and closing tags stand in the order in which they are to be written, and
takes the first of them in every turn. What has been written, followed by what recursion gives for
the work that is left, is the same before and after a turn. Each turn leaves less to do, so that in
the end all has been written.

* `textOf`: the template of a node by recursion;
* `turn`, `Ends`: one turn, and turns up to the end;
* `workText_eq_turn`: what a turn keeps;
* `Ends.outcome_eq`, `ends_run`: what turns up to the end give, and how many there are;
* `emit_eq_textOf`: emitting gives what recursion gives.
-/

namespace Componentry

namespace Node

theorem costAll_eq_of_forall {nodes : List Node}
    (h : ∀ node ∈ nodes, node.cost = 2 * node.subtree.length) :
    costAll nodes = 2 * (subtreeAll nodes).length := by
  induction nodes with
  | nil => rfl
  | cons node nodes ih =>
    rw [List.forall_mem_cons] at h
    rw [costAll, subtreeAll, List.length_append, h.1, ih h.2]
    omega

/-- Every node of a tree counts twice. -/
theorem cost_eq_length (node : Node) : node.cost = 2 * node.subtree.length := by
  induction node using induct with
  | step node ih =>
    rw [cost_eq, subtree_eq, costAll_eq_of_forall ih, List.length_cons]
    omega

end Node

namespace Template.Emitter

open Numeral

/-! ### Texts one after another -/

/-- Two texts one after another, if both are there. -/
def join (first rest : Except IntegerError Text) : Except IntegerError Text := do
  let first ← first
  let rest ← rest
  .ok (first ++ rest)

@[simp]
theorem ok_join_ok (first rest : Text) : join (.ok first) (.ok rest) = .ok (first ++ rest) := rfl

@[simp]
theorem error_join (error : IntegerError) (rest : Except IntegerError Text) :
    join (.error error) rest = .error error := rfl

@[simp]
theorem nil_join (text : Except IntegerError Text) : join (.ok []) text = text := by
  cases text <;> rfl

@[simp]
theorem join_nil (text : Except IntegerError Text) : join text (.ok []) = text := by
  cases text <;> simp

theorem join_assoc (first second third : Except IntegerError Text) :
    join (join first second) third = join first (join second third) := by
  cases first with
  | error error => rfl
  | ok first =>
    cases second with
    | error error => rfl
    | ok second =>
      cases third with
      | error error => rfl
      | ok third => simp

/-! ### Recursion -/

/-- A tag with the props of an element and the given end. -/
def startTag (e : Emitter) (node : Node) (ending : Text) : Except IntegerError Text :=
  (e.fragments node).map fun fragments =>
    "<" ++ tagName node.tag? ++ fragments.flatMap (fun f => ' ' :: f.render) ++ ending

mutual

/-- The template of a node in the unit with the root `root`, by recursion on the node. -/
def textOf (e : Emitter) (root : Int) : Node → Except IntegerError Text
  | ⟨uid, kind, tag?, attributes, content, children⟩ =>
    let node : Node := ⟨uid, kind, tag?, attributes, content, children⟩
    match kind with
    | .text => .ok (if (Text.trim content).isEmpty then [] else escapeText (Text.trim content))
    | .comment => .ok (comment content)
    | .element =>
      match e.unitAt root uid with
      | some name => .ok (reference name)
      | none =>
        if node.isDropped then .ok []
        else if e.isChildless node then e.startTag node " />"
        else join (e.startTag node ">") (join (textOfAll e root children) (.ok (closeTag tag?)))

/-- The templates of some nodes in the unit with the root `root`, one after another. -/
def textOfAll (e : Emitter) (root : Int) : List Node → Except IntegerError Text
  | [] => .ok []
  | node :: nodes => join (textOf e root node) (textOfAll e root nodes)

end

theorem openTag_eq (e : Emitter) (node : Node) :
    e.openTag node = e.startTag node (if e.isChildless node then " />" else ">") := by
  rw [openTag, startTag]
  cases e.isChildless node <;> rfl

/-! ### Turns -/

variable {e : Emitter} {root : Int}

/-- One turn: what is written for the work `w`, and the work that takes its place. -/
def turn (e : Emitter) (root : Int) : Work → Except IntegerError (Text × List Work)
  | .close tag? => .ok (closeTag tag?, [])
  | .node node =>
    match node.kind with
    | .text => .ok (escapeText (Text.trim node.content), [])
    | .comment => .ok (comment node.content, [])
    | .element =>
      match e.unitAt root node.uid with
      | some name => .ok (reference name, [])
      | none =>
        if node.isDropped then .ok ([], [])
        else
          (e.openTag node).map fun opening =>
            (opening,
              if e.isChildless node then [] else node.children.map .node ++ [.close node.tag?])

/-- When `written` has been written and `work` is left, that many turns lead to `outcome`: all that
has been written once nothing is left, or the error that has ended the last turn. -/
inductive Ends (e : Emitter) (root : Int) :
    Text → List Work → Nat → Except IntegerError Text → Prop
  /-- Nothing is left. -/
  | done (written : Text) : Ends e root written [] 0 (.ok written)
  /-- A turn writes something, and others follow it. -/
  | turn {written text : Text} {w : Work} {work more : List Work} {turns : Nat}
    {outcome : Except IntegerError Text} (h : e.turn root w = .ok (text, more))
    (rest : Ends e root (written ++ text) (more ++ work) turns outcome) :
    Ends e root written (w :: work) (turns + 1) outcome
  /-- A turn fails. -/
  | fail {written : Text} {w : Work} {work : List Work} {error : IntegerError}
    (h : e.turn root w = .error error) : Ends e root written (w :: work) 1 (.error error)

/-- The text that work stands for. -/
def workText (e : Emitter) (root : Int) : Work → Except IntegerError Text
  | .node node => e.textOf root node
  | .close tag? => .ok (closeTag tag?)

/-- The text that the work that is left stands for. -/
def owed (e : Emitter) (root : Int) : List Work → Except IntegerError Text
  | [] => .ok []
  | w :: work => join (e.workText root w) (owed e root work)

theorem owed_append (work more : List Work) :
    e.owed root (work ++ more) = join (e.owed root work) (e.owed root more) := by
  induction work with
  | nil => rw [List.nil_append, owed, nil_join]
  | cons w work ih => rw [List.cons_append, owed, owed, ih, join_assoc]

theorem owed_nodes (nodes : List Node) :
    e.owed root (nodes.map .node) = e.textOfAll root nodes := by
  induction nodes with
  | nil => rfl
  | cons node nodes ih =>
    rw [List.map_cons, owed, ih, textOfAll]
    rfl

/-! ### What a turn keeps -/

theorem textOf_text {node : Node} (hkind : node.kind = .text) :
    e.textOf root node = .ok (escapeText (Text.trim node.content)) := by
  cases node
  cases hkind
  rw [textOf]
  split
  next hblank =>
    -- escaping nothing gives nothing
    rw [List.isEmpty_iff.1 hblank]
    rfl
  next => rfl

theorem textOf_comment {node : Node} (hkind : node.kind = .comment) :
    e.textOf root node = .ok (comment node.content) := by
  cases node
  cases hkind
  rfl

theorem textOf_unit {node : Node} {name : Text} (hkind : node.kind = .element)
    (hunit : e.unitAt root node.uid = some name) : e.textOf root node = .ok (reference name) := by
  cases node
  cases hkind
  simp only [textOf, hunit]

theorem textOf_dropped {node : Node} (hkind : node.kind = .element)
    (hunit : e.unitAt root node.uid = none) (hdropped : node.isDropped) :
    e.textOf root node = .ok [] := by
  cases node
  cases hkind
  simp only [textOf, hunit, hdropped, if_true]

theorem textOf_childless {node : Node} (hkind : node.kind = .element)
    (hunit : e.unitAt root node.uid = none) (hdropped : ¬ node.isDropped)
    (hchildless : e.isChildless node) : e.textOf root node = e.openTag node := by
  rw [openTag_eq, if_pos hchildless]
  cases node
  cases hkind
  simp only [textOf, hunit, hdropped, hchildless, if_true]
  rfl

theorem textOf_open {node : Node} (hkind : node.kind = .element)
    (hunit : e.unitAt root node.uid = none) (hdropped : ¬ node.isDropped)
    (hchildless : ¬ e.isChildless node) :
    e.textOf root node = join (e.openTag node)
      (join (e.textOfAll root node.children) (.ok (closeTag node.tag?))) := by
  rw [openTag_eq, if_neg hchildless]
  cases node
  cases hkind
  simp only [textOf, hunit, hdropped, hchildless]
  rfl

/-- What a turn writes, followed by the text of the work that takes the place of `w`, is the text of
`w`, and `w` has none if the turn fails. -/
theorem workText_eq_turn (w : Work) :
    e.workText root w =
      (e.turn root w).bind fun next => join (.ok next.1) (e.owed root next.2) := by
  cases w with
  | close tag? => simp [workText, turn, owed, Except.bind]
  | node node =>
    rw [workText]
    cases hkind : node.kind with
    | text => simp [textOf_text hkind, turn, hkind, owed, Except.bind]
    | comment => simp [textOf_comment hkind, turn, hkind, owed, Except.bind]
    | element =>
      cases hunit : e.unitAt root node.uid with
      | some name => simp [textOf_unit hkind hunit, turn, hkind, hunit, owed, Except.bind]
      | none =>
        by_cases hdropped : node.isDropped
        · simp [textOf_dropped hkind hunit hdropped, turn, hkind, hunit, hdropped, owed,
            Except.bind]
        · by_cases hchildless : e.isChildless node
          · rw [textOf_childless hkind hunit hdropped hchildless]
            cases hopening : e.openTag node <;>
              simp [turn, hkind, hunit, hdropped, hopening, hchildless, owed, Except.bind,
                Except.map]
          · -- what is inside the element is written before its closing tag
            rw [textOf_open hkind hunit hdropped hchildless]
            cases hopening : e.openTag node <;>
              simp [turn, hkind, hunit, hdropped, hopening, hchildless, owed_append, owed_nodes,
                owed, workText, Except.bind, Except.map]

/-- What has been written and the text of the work that is left make up what the turns lead to. -/
theorem Ends.outcome_eq {written : Text} {work : List Work} {turns : Nat}
    {outcome : Except IntegerError Text} (h : e.Ends root written work turns outcome) :
    outcome = join (.ok written) (e.owed root work) := by
  induction h with
  | done written => rw [owed, join_nil]
  | turn h _ ih =>
    rw [ih, owed_append, owed, workText_eq_turn, h, Except.bind, ← ok_join_ok, join_assoc,
      join_assoc]
  | fail h =>
    rw [owed, workText_eq_turn, h]
    rfl

/-! ### All turns -/

/-- A turn goes before turns up to the end. -/
theorem exists_ends_of_turn {written text : Text} {w : Work} {work more : List Work}
    {outcome : Except IntegerError Text} {bound limit : Nat}
    (hturn : e.turn root w = .ok (text, more))
    (h : ∃ turns ≤ bound, e.Ends root (written ++ text) (more ++ work) turns outcome)
    (hbound : bound < limit) : ∃ turns ≤ limit, e.Ends root written (w :: work) turns outcome := by
  obtain ⟨turns, hturns, hends⟩ := h
  exact ⟨turns + 1, by omega, .turn hturn hends⟩

/-- A run is made of turns up to the end, at most as many as its cost says. -/
theorem ends_run (e : Emitter) (root : Int) (done : List Text) (work : List Work) :
    ∃ turns ≤ cost work, e.Ends root done.reverse.flatten work turns (e.run root done work) := by
  -- in each case `hturn` is the turn that is taken first
  fun_induction run e root done work with
  | case1 done => exact ⟨0, Nat.le_refl 0, .done _⟩
  | case2 done tag? work ih =>
    have hturn : e.turn root (.close tag?) = .ok (closeTag tag?, []) := rfl
    exact exists_ends_of_turn hturn (by simpa using ih) (by simp [Work.cost])
  | case3 done node work hkind ih =>
    have hturn : e.turn root (.node node) = .ok (escapeText (Text.trim node.content), []) := by
      rw [turn, hkind]
    exact exists_ends_of_turn hturn (by simpa using ih) (by simp [Work.cost, Node.cost_pos])
  | case4 done node work hkind ih =>
    have hturn : e.turn root (.node node) = .ok (comment node.content, []) := by
      rw [turn, hkind]
    exact exists_ends_of_turn hturn (by simpa using ih) (by simp [Work.cost, Node.cost_pos])
  | case5 done node work hkind name hunit ih =>
    change e.unitAt root node.uid = some name at hunit
    have hturn : e.turn root (.node node) = .ok (reference name, []) := by
      simp only [turn, hkind, hunit]
    exact exists_ends_of_turn hturn (by simpa using ih) (by simp [Work.cost, Node.cost_pos])
  | case6 done node work hkind hunit hdropped ih =>
    change e.unitAt root node.uid = none at hunit
    have hturn : e.turn root (.node node) = .ok ([], []) := by
      simp only [turn, hkind, hunit, hdropped, if_true]
    exact exists_ends_of_turn hturn (by simpa using ih) (by simp [Work.cost, Node.cost_pos])
  | case7 done node work hkind hunit hdropped error herror =>
    change e.unitAt root node.uid = none at hunit
    have hturn : e.turn root (.node node) = .error error := by
      simp only [turn, hkind, hunit, hdropped, herror]
      rfl
    exact ⟨1, by simp [Work.cost, Node.cost_eq]; omega, .fail hturn⟩
  | case8 done node work hkind hunit hdropped opening hopening hchildless ih =>
    change e.unitAt root node.uid = none at hunit
    have hturn : e.turn root (.node node) = .ok (opening, []) := by
      simp only [turn, hkind, hunit, hdropped, hopening, hchildless, if_true]
      rfl
    exact exists_ends_of_turn hturn (by simpa using ih) (by simp [Work.cost, Node.cost_pos])
  | case9 done node work hkind hunit hdropped opening hopening hchildless ih =>
    change e.unitAt root node.uid = none at hunit
    have hturn : e.turn root (.node node) =
        .ok (opening, node.children.map .node ++ [.close node.tag?]) := by
      simp only [turn, hkind, hunit, hdropped, hopening, hchildless]
      rfl
    simp only [List.map_subtype, List.unattach_attach] at ih
    exact exists_ends_of_turn hturn (by simpa using ih)
      (by simp [Work.cost, Node.cost_eq]; omega)

/-- Emitting writes a template exactly if the props of every element can be written to whose opening
tag it gets. -/
theorem exists_emit_iff_fragments {root : Node} :
    (∃ text, e.emit root = .ok text) ↔
      ∀ node, e.Opens root node → ∃ props, e.fragments node = .ok props := by
  rw [emit_eq, exists_renderAll_iff]
  constructor
  · intro h node hnode
    obtain ⟨text, htext⟩ := h _ (opening_mem_pieces_iff.2 hnode)
    obtain ⟨props, hprops, -⟩ := Except.map_eq_ok.1 htext
    exact ⟨props, hprops⟩
  · intro h piece hpiece
    cases piece with
    | opening node =>
      obtain ⟨props, hprops⟩ := h node (opening_mem_pieces_iff.1 hpiece)
      exact ⟨_, Except.map_eq_ok.2 ⟨props, hprops, rfl⟩⟩
    | _ => exact ⟨_, rfl⟩

/-- Emitting a node gives what recursion gives, for every tree, every choice of state fields and
every choice of units, whatever numbers the nodes have. It takes at most two turns for every node of
the tree, and they can end in one way only. There is a template if the props of every element can be
written whose opening tag it has. -/
theorem emit_eq_textOf (e : Emitter) (root : Node) :
    e.emit root = e.textOf root.uid root ∧
      (∃ turns ≤ 2 * root.subtree.length,
        e.Ends root.uid [] [.node root] turns (e.emit root)) ∧
      (∀ turns outcome, e.Ends root.uid [] [.node root] turns outcome → outcome = e.emit root) ∧
      ((∃ text, e.textOf root.uid root = .ok text) ↔
        ∀ node, e.Opens root node → ∃ props, e.fragments node = .ok props) := by
  obtain ⟨turns, hturns, hends⟩ := ends_run e root.uid [] [.node root]
  have howed : join (.ok []) (e.owed root.uid [.node root]) = e.textOf root.uid root := by
    rw [nil_join, owed, owed, join_nil, workText]
  have hemit : e.emit root = e.textOf root.uid root := hends.outcome_eq.trans howed
  refine ⟨hemit, ⟨turns, ?_, hends⟩, fun _ _ hother => ?_, ?_⟩
  · rw [← Node.cost_eq_length]
    simpa [cost, Work.cost] using hturns
  · rw [hother.outcome_eq, howed, hemit]
  · rw [← hemit]
    exact exists_emit_iff_fragments

end Template.Emitter

end Componentry
