import Componentry.Proofs.Component.Coverage
import Componentry.Proofs.State.Inference

/-!
# Elements written without children

Emitting does not go on below a void element, nor below a text area that is bound to the state.
Every text area of a document that is read is bound, for it is a control; a void element has
children where its reader left it open. So where emitting stops is known from the tags alone:

* `Layout.mem_uids_fields_iff`: the fields are those of the controls of the document;
* `Layout.isChildless_iff`: which elements are written without children;
* `Layout.isCut_iff`: which paths are cut.
-/

namespace Componentry

open Node Template

/-- A tidy node that can be bound is an element. -/
theorem Node.Tidy.element_of_isBindable {node : Node} (h : node.Tidy)
    (hbindable : Control.isBindable node) : node.kind = .element := by
  by_contra hkind
  -- a control has a tag
  rw [Control.isBindable, hasTag, hasTag, hasTag, h.no_tag hkind] at hbindable
  cases hbindable

theorem Control.isBindable_of_textarea {node : Node} (h : node.hasTag "textarea") :
    Control.isBindable node := by
  have htag : node.tag? = some ("textarea" : Text) := of_decide_eq_true h
  rw [Control.isBindable, h, hasTag, htag]
  rfl

/-- A template does not show what is below a node: the node is a void element or a text area. -/
def Node.HidesChildren (node : Node) : Prop :=
  node.tag?.any voidTags.contains ∨ node.hasTag "textarea"

instance (node : Node) : Decidable node.HidesChildren :=
  inferInstanceAs (Decidable (_ ∨ _))

namespace Layout

variable {d : Document} (name : Text)

/-- The controls of the fields are the nodes of the document that can be bound. -/
theorem mem_uids_fields_iff (hd : d.WellFormed) {u : Int} :
    u ∈ (inferFields d.root).map Field.uid ↔
      ∃ node ∈ d.root.subtree, Control.isBindable node ∧ u = node.uid := by
  rw [mem_uids_inferFields]
  constructor
  · rintro ⟨node, hnode, hbindable⟩
    exact ⟨node, ((mem_elements_iff hd.tidy).1 hnode).1, hbindable⟩
  · rintro ⟨node, hnode, hbindable, hu⟩
    exact ⟨node, (mem_elements_iff hd.tidy).2
      ⟨hnode, (hd.tidy node hnode).element_of_isBindable hbindable⟩, hbindable, hu⟩

/-- Below the body, void elements and text areas are written without children, and nothing else is.
-/
theorem isChildless_iff (hd : d.WellFormed) {node : Node} (hnode : node ∈ d.body.descendants) :
    (emitterOf name d).isChildless node ↔ node.HidesChildren := by
  rw [Emitter.isChildless, HidesChildren, Bool.or_eq_true, Bool.and_eq_true]
  refine or_congr_right (and_iff_left_of_imp fun harea => ?_)
  -- a text area is a control, and so it has a field
  have hmem : node.uid ∈ (inferFields d.root).map Field.uid := (mem_uids_fields_iff hd).2
    ⟨node, mem_subtree_iff.2 (.inr (descendants_subset_of_mem hd.body_mem hnode)),
      Control.isBindable_of_textarea harea, rfl⟩
  obtain ⟨field, hfield, huid⟩ := List.mem_map.1 hmem
  have hfind := Field.find?_eq_some_of_mem (sound_inferFields d.root).2 hfield
  rw [← huid]
  exact Option.isSome_of_eq_some hfind

/-- A reader that takes a slash for an end tag leaves the second element open, so that a void
element has a child. -/
example : (Document.parse .endTag "<br><br/>x".toList).map (fun d =>
      d.body.children.map fun node => (node.tag?, node.children.map Node.content)) =
    .ok [(some "br".toList, []), (some "br".toList, ["x".toList])] := by decide +kernel

/-- A path goes on below a node that hides its children, and from there it leads to the root of no
unit. -/
def StaysHidden (l : Layout) (path : List Node) : Prop :=
  ∃ outer cover inner, path = outer ++ cover :: inner ∧ inner ≠ [] ∧ cover.HidesChildren ∧
    ∀ node ∈ inner, l.emitter.units.lookup node.uid = none

/-- A path in a document is cut exactly if it stays hidden. -/
theorem isCut_iff (hd : d.WellFormed) {path : List Node} (hpath : Descends d.body path) :
    (emitterOf name d).IsCut path ↔ (ofDocument name d).StaysHidden path := by
  constructor
  · rintro ⟨outer, cover, inner, rfl, hinner, hlookup, hchildless⟩
    -- what stands on the path lies below the body, where the tag alone tells
    have hcover := (isChildless_iff name hd (hpath.mem_descendants (by simp))).1 hchildless
    exact ⟨outer, cover, inner, rfl, hinner, hcover, hlookup⟩
  · rintro ⟨outer, cover, inner, rfl, hinner, hcover, hlookup⟩
    have hchildless := (isChildless_iff name hd (hpath.mem_descendants (by simp))).2 hcover
    exact ⟨outer, cover, inner, rfl, hinner, hlookup, hchildless⟩

end Layout

end Componentry
