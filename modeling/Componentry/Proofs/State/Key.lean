import Componentry.Proofs.Markup.Numbering
import Componentry.Proofs.State.Inference

/-!
# Keys of controls

The controls that are reached from a node have one field each, in document order. The key of a field
comes from what the document calls the control and from the controls before it, and from nothing
else, so that controls that are added at the end change no key.

* `Control.mem_reached_iff`: which nodes are the controls that are reached;
* `keysFrom`: the keys that controls get, from their attributes alone;
* `map_inferFields`: the fields are those of the controls, with these keys;
* `keys_follow_controls`: what holds of the fields of every tree whose nodes have numbers of their
  own.
-/

namespace Componentry

namespace Node

theorem elementsAll_sublist_subtreeAll {nodes : List Node}
    (h : ∀ node ∈ nodes, node.elements.Sublist node.subtree) :
    (elementsAll nodes).Sublist (subtreeAll nodes) := by
  induction nodes with
  | nil => exact List.Sublist.refl _
  | cons node nodes ih =>
    rw [List.forall_mem_cons] at h
    exact h.1.append (ih h.2)

theorem elements_sublist_subtree (node : Node) : node.elements.Sublist node.subtree := by
  induction node using induct with
  | step node ih =>
    rw [elements_eq, subtree_eq]
    split
    · exact (elementsAll_sublist_subtreeAll ih).cons_cons node
    · exact List.nil_sublist _

/-- The elements that are reached are those that elements alone lead to. -/
theorem mem_elements_iff_leadsBy {root node : Node} :
    node ∈ root.elements ↔ root.LeadsBy (fun n => n.kind = .element) node ∧
      node.kind = .element := by
  induction root using induct with
  | step root ih =>
    rw [elements_eq, leadsBy_iff]
    split
    next hkind =>
      rw [List.mem_cons, elementsAll_eq_flatMap, List.mem_flatMap]
      constructor
      · rintro (rfl | ⟨child, hchild, hnode⟩)
        · exact ⟨.inl rfl, hkind⟩
        · obtain ⟨hleads, hnode⟩ := (ih child hchild).1 hnode
          exact ⟨.inr ⟨hkind, child, hchild, hleads⟩, hnode⟩
      · rintro ⟨rfl | ⟨-, child, hchild, hleads⟩, hnode⟩
        · exact .inl rfl
        · exact .inr ⟨child, hchild, (ih child hchild).2 ⟨hleads, hnode⟩⟩
    next hkind =>
      -- nothing is reached from what is no element
      refine ⟨fun h => absurd h List.not_mem_nil, ?_⟩
      rintro ⟨rfl | ⟨hroot, -⟩, hnode⟩
      · exact absurd hnode hkind
      · exact absurd hroot hkind

end Node

/-! ### Controls -/

namespace Control

/-- The controls that are reached from a node through elements, in document order. -/
def reached (root : Node) : List Node := root.elements.filter isBindable

/-- A text area, a selection, or an input of a type with a value to edit. -/
def IsControl (node : Node) : Prop :=
  node.tag? = some "textarea" ∨ node.tag? = some "select" ∨
    node.tag? = some "input" ∧ (Text.trim (valueOf "type" node.attributes)).lower ∉
      (["file", "submit", "button", "reset", "image"] : List Text)

theorem inputType_mem_unboundTypes {attributes : List (Text × Text)} :
    inputType attributes ∈ unboundTypes ↔
      (Text.trim (valueOf "type" attributes)).lower ∈ unboundTypes := by
  rw [inputType]
  -- an input without a type is one of running text, which can be edited
  cases valueOf "type" attributes with
  | nil => decide
  | cons c type => exact Iff.rfl

/-- The controls are what can be bound to the state. -/
theorem isBindable_iff {node : Node} : isBindable node ↔ IsControl node := by
  rw [isBindable, IsControl]
  split
  next hinput =>
    have htag : node.tag? = some ("input" : Text) := of_decide_eq_true hinput
    rw [htag, Bool.not_eq_true', ← Bool.not_eq_true, List.contains_iff_mem,
      inputType_mem_unboundTypes]
    constructor
    · exact fun htype => .inr (.inr ⟨rfl, htype⟩)
    · rintro (harea | hselect | ⟨-, htype⟩)
      · exact absurd harea (by decide)
      · exact absurd hselect (by decide)
      · exact htype
  next hinput =>
    have htag : node.tag? ≠ some ("input" : Text) := fun h => hinput (decide_eq_true h)
    rw [Bool.or_eq_true, Node.hasTag, Node.hasTag, decide_eq_true_iff, decide_eq_true_iff]
    exact or_congr_right (or_iff_left fun h => htag h.1).symm

theorem mem_reached_iff {root node : Node} :
    node ∈ reached root ↔
      root.LeadsBy (fun n => n.kind = .element) node ∧ node.kind = .element ∧ IsControl node := by
  rw [reached, List.mem_filter, Node.mem_elements_iff_leadsBy, isBindable_iff, and_assoc]

theorem reached_sublist_subtree (root : Node) : (reached root).Sublist root.subtree :=
  List.filter_sublist.trans root.elements_sublist_subtree

end Control

/-! ### Keys -/

/-- The keys that controls with these attributes get after `count` controls with the keys
`taken`. -/
def keysFrom (count : Nat) (taken : List Text) : List (List (Text × Text)) → List Text
  | [] => []
  | attributes :: rest =>
    let name := Control.givenName (count + 1) attributes
    let key := Naming.unique taken (Control.baseKey (count + 1) name) []
    key :: keysFrom (count + 1) (key :: taken) rest

/-- The keys of the first controls come from the attributes of these alone. -/
theorem take_keysFrom (k count : Nat) (taken : List Text)
    (attributes : List (List (Text × Text))) :
    (keysFrom count taken attributes).take k = keysFrom count taken (attributes.take k) := by
  induction attributes generalizing k count taken with
  | nil => rw [keysFrom, List.take_nil, List.take_nil, keysFrom]
  | cons first attributes ih =>
    cases k with
    | zero => rfl
    | succ k =>
      rw [List.take_succ_cons, keysFrom, keysFrom, List.take_succ_cons, ih]

theorem length_keysFrom (count : Nat) (taken : List Text)
    (attributes : List (List (Text × Text))) :
    (keysFrom count taken attributes).length = attributes.length := by
  induction attributes generalizing count taken with
  | nil => rfl
  | cons first attributes ih => rw [keysFrom, List.length_cons, List.length_cons, ih]

namespace Field

/-- The field of a control that has none yet comes last. -/
theorem put_eq_append {field : Field} {fields : List Field} (h : field.uid ∉ fields.map uid) :
    put field fields = fields ++ [field] := by
  induction fields with
  | nil => rfl
  | cons first fields ih =>
    rw [List.map_cons, List.mem_cons, not_or] at h
    rw [put, if_neg (Ne.symm h.1), ih h.2, List.cons_append]

end Field

namespace Inference

/-- Nothing is inferred from what is no control. -/
theorem foldl_step_filter (s : Inference) (nodes : List Node) :
    (nodes.filter Control.isBindable).foldl step s = nodes.foldl step s := by
  rw [List.foldl_filter]
  refine congrArg (fun f => nodes.foldl f s) (funext fun s => funext fun node => ?_)
  rw [step]
  split <;> rfl

/-- Controls that have no field yet get one each, with the keys that `keysFrom` says. -/
theorem fields_foldl_step {s : Inference} {nodes : List Node}
    (hbindable : ∀ node ∈ nodes, Control.isBindable node)
    (hnodup : (s.fields.map Field.uid ++ nodes.map Node.uid).Nodup) :
    (nodes.foldl step s).fields.map Field.uid = s.fields.map Field.uid ++ nodes.map Node.uid ∧
      (nodes.foldl step s).fields.map Field.key =
        s.fields.map Field.key ++ keysFrom s.count s.taken (nodes.map Node.attributes) := by
  induction nodes generalizing s with
  | nil => simp [keysFrom]
  | cons node nodes ih =>
    rw [List.forall_mem_cons] at hbindable
    have hnew : node.uid ∉ s.fields.map Field.uid := fun hmem =>
      (List.disjoint_of_nodup_append hnodup) hmem List.mem_cons_self
    -- the control is new, so that its field comes last
    have hfields : (s.step node).fields = s.fields ++
        [⟨Control.givenName (s.count + 1) node.attributes,
          Naming.unique s.taken (Control.baseKey (s.count + 1)
            (Control.givenName (s.count + 1) node.attributes)) [],
          Control.initial node, node.uid⟩] := by
      rw [step, if_pos hbindable.1]
      exact Field.put_eq_append hnew
    have hstep : (s.step node).count = s.count + 1 ∧ (s.step node).taken =
        Naming.unique s.taken (Control.baseKey (s.count + 1)
          (Control.givenName (s.count + 1) node.attributes)) [] :: s.taken := by
      rw [step, if_pos hbindable.1]
      exact ⟨rfl, rfl⟩
    obtain ⟨huids, hkeys⟩ := ih (s := s.step node) hbindable.2 (by simpa [hfields] using hnodup)
    rw [List.foldl_cons, huids, hkeys, hfields, hstep.1, hstep.2]
    exact ⟨by simp, by simp [keysFrom]⟩

end Inference

/-- The fields of a tree are those of its controls, and their keys come from the attributes of the
controls. -/
theorem map_inferFields {root : Node} (hroot : root.DistinctWith) :
    (inferFields root).map Field.uid = (Control.reached root).map Node.uid ∧
      (inferFields root).map Field.key =
        keysFrom 0 [] ((Control.reached root).map Node.attributes) := by
  have hnodup : ((Control.reached root).map Node.uid).Nodup :=
    ((Control.reached_sublist_subtree root).map Node.uid).nodup hroot
  have hbindable : ∀ node ∈ Control.reached root, Control.isBindable node :=
    fun node hnode => List.of_mem_filter hnode
  have hfields := Inference.fields_foldl_step (s := Inference.empty) hbindable hnodup
  rwa [Control.reached, Inference.foldl_step_filter] at hfields

/-- A tree whose nodes have numbers of their own has one field for each control that is reached
through elements, in document order and under the number of the control. The keys are different
identifiers, and the keys of the first controls are the same in every tree in which these have the
same attributes, whatever comes after them. -/
theorem keys_follow_controls {root : Node} (hroot : root.DistinctWith) :
    (inferFields root).map Field.uid = (Control.reached root).map Node.uid ∧
      (Control.reached root).Sublist root.subtree ∧
      (∀ node, node ∈ Control.reached root ↔ root.LeadsBy (fun n => n.kind = .element) node ∧
        node.kind = .element ∧ Control.IsControl node) ∧
      ((inferFields root).map Field.key).Nodup ∧
      (∀ field ∈ inferFields root, Naming.IsIdentifier field.key) ∧
      ∀ other : Node, other.DistinctWith →
        (∀ k, ((Control.reached other).take k).map Node.attributes =
            ((Control.reached root).take k).map Node.attributes →
          ((inferFields other).take k).map Field.key =
            ((inferFields root).take k).map Field.key) ∧
        ((Control.reached root).map Node.attributes <+:
            (Control.reached other).map Node.attributes →
          (inferFields root).map Field.key <+: (inferFields other).map Field.key) := by
  obtain ⟨huids, hkeys⟩ := map_inferFields hroot
  refine ⟨huids, Control.reached_sublist_subtree root, fun node => Control.mem_reached_iff,
    (sound_inferFields root).1, isIdentifier_key, fun other hother => ?_⟩
  obtain ⟨-, hkeys'⟩ := map_inferFields hother
  constructor
  · intro k hagree
    rw [List.map_take, List.map_take, hkeys, hkeys', take_keysFrom, take_keysFrom,
      ← List.map_take, ← List.map_take, hagree]
  · intro hprefix
    rw [List.prefix_iff_eq_take] at hprefix ⊢
    rw [hkeys, hkeys', length_keysFrom, take_keysFrom, ← hprefix]

/-- A form with controls of these names. -/
def formOf (names : List Text) : Node :=
  .element 0 "form" [] (names.mapIdx fun i name => .element (i + 1) "input" [("name", name)] [])

theorem keys_follow_controls_form :
    (formOf ["email2", "email", "email"]).DistinctWith ∧
      (inferFields (formOf ["email2", "email", "email"])).map Field.key =
        (["email2", "email", "email3"] : List Text) ∧
      (["email2", "email", "email3"] : List Text) <+:
        (inferFields (formOf ["email2", "email", "email", "2. Wahl", "!", "email"])).map
          Field.key := by
  have hform : (formOf ["email2", "email", "email"]).DistinctWith := by
    rw [Node.DistinctWith]
    decide
  have hlonger :
      (formOf ["email2", "email", "email", "2. Wahl", "!", "email"]).DistinctWith := by
    rw [Node.DistinctWith]
    decide
  have hkeys : (inferFields (formOf ["email2", "email", "email"])).map Field.key =
      (["email2", "email", "email3"] : List Text) := by
    decide +kernel
  obtain ⟨-, -, -, -, -, hother⟩ := keys_follow_controls hform
  refine ⟨hform, hkeys, ?_⟩
  rw [← hkeys]
  exact (hother _ hlonger).2 (by decide +kernel)

end Componentry
