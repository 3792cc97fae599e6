import Componentry.Proofs.Component.Coverage
import Componentry.Proofs.State.Inference
import Componentry.Proofs.Template.Fragment
import Componentry.Proofs.Unit.Naming

/-!
# Bindings

The opening tag of a control that has a state field ties it to that field and to no other; no other
tag reads the state. Since no control is written twice and no two controls share a field, no key is
bound twice in a component:

* `Template.Emitter.binds_of_fragments`: what the opening tag of an element has to do with the
  state;
* `Layout.nodup_boundKeys`: no key is bound twice;
* `Conversion.binds_each_key_once`: what holds of the bindings of a conversion.
-/

namespace Componentry

open Node Template

namespace Template

/-- What the control of a field shows: whether it is checked, or its value. -/
def shownProp (field : Field) : Text := if field.initial.isFlag then "checked" else "value"

/-- A prop shows the state under the key of a field. -/
def ShowsField (field : Field) (f : Fragment) : Prop :=
  f.name = shownProp field ∧
    f.render = shownProp field ++ "=\x7bstate." ++ field.key ++ "\x7d"

/-- A prop stores under the key of a field what a changed control shows. -/
def StoresField (field : Field) (f : Fragment) : Prop :=
  f.name = "onChange" ∧
    f.render = "onChange=\x7b(e) => update(\"" ++ field.key ++ "\", e.target." ++ shownProp field ++
      ")\x7d"

/-- The props of a control tie it to a field: of those that could say what the control shows or what
happens when it changes, one shows the state of the field, one stores it, and there is no other. -/
def TieTo (field : Field) (props : List Fragment) : Prop :=
  ∃ shows stores, ShowsField field shows ∧ StoresField field stores ∧
    props.filter (["value".toList, "checked".toList, "onChange".toList].contains ·.name) =
      [shows, stores]

theorem binding_eq (field : Field) :
    binding field = [⟨shownProp field, .state field.key⟩,
      ⟨"onChange", .update field.key (shownProp field)⟩] := by
  rw [binding, shownProp]
  split <;> rfl

theorem showsField_state (field : Field) :
    ShowsField field ⟨shownProp field, .state field.key⟩ := by
  refine ⟨rfl, ?_⟩
  -- the equations of `Expression.render` are slow to prove, so that the text is unfolded here
  change shownProp field ++ "=" ++ ("\x7bstate." ++ field.key ++ "\x7d") = _
  simp only [List.append_assoc]
  rfl

theorem storesField_update (field : Field) :
    StoresField field ⟨"onChange", .update field.key (shownProp field)⟩ := by
  refine ⟨rfl, ?_⟩
  change "onChange" ++ "=" ++ ("\x7b(e) => update(\"" ++ field.key ++ "\", e.target." ++
    shownProp field ++ ")\x7d") = _
  simp only [List.append_assoc]
  rfl

/-- Of the props that a field gives its control, the one that reads the state shows the field. -/
theorem showsField_of_mem_binding {field : Field} {f : Fragment} (hf : f ∈ binding field)
    (hbinds : f.BindsState) : ShowsField field f := by
  obtain ⟨key, hkey⟩ := Fragment.bindsState_iff.1 hbinds
  rw [binding_eq, List.mem_pair] at hf
  rcases hf with rfl | rfl
  · exact showsField_state field
  · cases hkey

namespace Emitter

/-- A bound control has the props that tie it to its field. -/
theorem tieTo_of_fragments {e : Emitter} {node : Node} {props : List Fragment} {field : Field}
    (h : e.fragments node = .ok props) (hfield : Field.find? e.fields node.uid = some field) :
    TieTo field props := by
  refine ⟨_, _, showsField_state field, storesField_update field, ?_⟩
  -- attributes that ask for one of these props are left out, so that only the field gives any
  rw [← binding_eq, ← filter_controlled h hfield]
  rfl

/-- The opening tag of an element has the right props: the control of a field has those that tie it
to the field and none that could contradict them; no other prop reads the state. -/
structure Binds (e : Emitter) (node : Node) (props : List Fragment) : Prop where
  /-- The props are those of the element. -/
  fragments : e.fragments node = .ok props
  /-- Its text has the props in this order. -/
  openTag : e.openTag node = .ok ("<" ++ tagName node.tag? ++
    props.flatMap (fun f => ' ' :: f.render) ++ if e.isChildless node then " />" else ">")
  /-- The control of a field is tied to it. -/
  control : ∀ field, Field.find? e.fields node.uid = some field → TieTo field props
  /-- A prop reads the state only if the element is the control of a field and the prop shows it. -/
  state : ∀ f ∈ props, f.BindsState →
    ∃ field, Field.find? e.fields node.uid = some field ∧ ShowsField field f

/-- What the opening tag of an element has to do with the state. -/
theorem binds_of_fragments {e : Emitter} {node : Node} {props : List Fragment}
    (h : e.fragments node = .ok props) : e.Binds node props := by
  refine ⟨h, ?_, fun field hfield => tieTo_of_fragments h hfield, fun f hf hbinds => ?_⟩
  · rw [openTag, h]
    cases e.isChildless node <;> rfl
  · rcases mem_fragments h hf with ⟨pair, -, hattribute⟩ | ⟨field, hfield, hbinding⟩
    · -- no attribute gives a prop that reads the state
      obtain ⟨key, hkey⟩ := Fragment.bindsState_iff.1 hbinds
      have hplain := hattribute.plain
      rw [hkey] at hplain
      exact hplain.elim
    · exact ⟨field, hfield, showsField_of_mem_binding hbinding hbinds⟩

/-- The keys that a piece binds: those that the props of an opening tag read. -/
def boundKeys (e : Emitter) : Piece → List Text
  | .opening node =>
    match e.fragments node with
    | .ok props => props.filterMap Fragment.stateKey?
    | .error _ => []
  | _ => []

/-- The keys that an element can be bound to: that of its field. -/
def ownKeys (e : Emitter) (node : Node) : List Text :=
  ((Field.find? e.fields node.uid).map Field.key).toList

theorem filterMap_stateKey?_binding (field : Field) :
    (binding field).filterMap Fragment.stateKey? = [field.key] := by
  rw [binding_eq]
  rfl

theorem filterMap_stateKey? {e : Emitter} {node : Node} {props : List Fragment}
    (h : e.fragments node = .ok props) : props.filterMap Fragment.stateKey? = e.ownKeys node := by
  obtain ⟨own, hown, rfl⟩ := fragments_eq_ok.1 h
  have hnone : own.filterMap Fragment.stateKey? = [] := by
    refine List.filterMap_eq_nil_iff.2 fun f hf => ?_
    obtain ⟨pair, -, heq⟩ := mem_attributeFragments hown hf
    have hplain := (fromAttribute_of_fragment? heq).plain
    cases hvalue : f.value with
    | state key =>
      rw [hvalue] at hplain
      exact hplain.elim
    | _ => rw [Fragment.stateKey?, hvalue]
  rw [List.filterMap_append, hnone, List.nil_append, ownKeys]
  cases Field.find? e.fields node.uid with
  | none => rfl
  | some field => exact filterMap_stateKey?_binding field

theorem boundKeys_sublist (e : Emitter) (piece : Piece) :
    (e.boundKeys piece).Sublist (piece.node?.toList.flatMap e.ownKeys) := by
  cases piece with
  | opening node =>
    rw [boundKeys]
    split
    next props hprops =>
      rw [filterMap_stateKey? hprops]
      simp [Piece.node?]
    next => exact List.nil_sublist _
  | _ => exact List.nil_sublist _

end Emitter

end Template

namespace Layout

/-- The keys that a component binds, once for each time that it binds them. -/
def boundKeys (l : Layout) : List Text := l.pieces.flatMap l.emitter.boundKeys

theorem boundKeys_sublist (l : Layout) :
    l.boundKeys.Sublist (l.written.flatMap l.emitter.ownKeys) := by
  have hwritten : l.written.flatMap l.emitter.ownKeys =
      l.pieces.flatMap fun piece => piece.node?.toList.flatMap l.emitter.ownKeys := by
    rw [written, Emitter.written, List.filterMap_eq_flatMap_toList, List.flatMap_assoc]
  rw [hwritten]
  exact List.Sublist.flatMap_right _ fun piece _ => l.emitter.boundKeys_sublist piece

variable {d : Document} (name : Text)

/-- No key is bound twice: no control is written twice, and no two controls share a field. -/
theorem nodup_boundKeys (hd : d.WellFormed) : (ofDocument name d).boundKeys.Nodup := by
  obtain ⟨hkeys, -⟩ := sound_inferFields d.root
  refine (boundKeys_sublist _).nodup (List.nodup_flatMap.2 ⟨fun node _ => ?_, ?_⟩)
  · rw [Emitter.ownKeys]
    cases Field.find? _ node.uid with
    | none => exact List.nodup_nil
    | some field => exact List.nodup_singleton _
  · have hnodup := nodup_written name hd
    rw [List.Nodup, List.pairwise_map] at hnodup
    refine hnodup.imp fun {n m} hne key hn hm => ?_
    rw [Emitter.ownKeys, Option.mem_toList, Option.map_eq_some_iff] at hn hm
    obtain ⟨field, hfield, rfl⟩ := hn
    obtain ⟨other, hother, hkey⟩ := hm
    obtain ⟨hmem, huid⟩ := Field.find?_eq_some hfield
    obtain ⟨hmem', huid'⟩ := Field.find?_eq_some hother
    -- two controls with the same key have the same field, and so the same number
    have hsame : field = other := List.inj_on_of_nodup_map hkeys hmem hmem' hkey.symm
    exact hne (by rw [← huid, ← huid', hsame])

/-- A key that is bound is that of exactly one field. -/
theorem count_boundKey {key : Text} (h : key ∈ (ofDocument name d).boundKeys) :
    ((inferFields d.root).map Field.key).count key = 1 := by
  obtain ⟨node, -, hkey⟩ := List.mem_flatMap.1 ((boundKeys_sublist _).subset h)
  rw [Emitter.ownKeys, Option.mem_toList, Option.map_eq_some_iff] at hkey
  obtain ⟨field, hfield, rfl⟩ := hkey
  exact List.count_eq_one_of_mem (sound_inferFields d.root).1
    (List.mem_map_of_mem (Field.find?_eq_some hfield).1)

end Layout

namespace Conversion

/-- The use of a unit reads no state key. -/
theorem not_infix_reference {component name : Text} {document : Document} {uid : Int}
    (h : .reference uid name ∈ (Layout.ofDocument component document).pieces) :
    ¬ "\x7bstate.".toList <:+: reference name := by
  intro hinfix
  obtain ⟨claim, hclaim, -, rfl⟩ := Layout.exists_claim_of_reference h
  -- a state key is read after a point, and the use of a unit has none
  have hpoint : '.' ∈ reference claim.name := hinfix.subset (by decide)
  rw [reference, List.mem_append, List.mem_append] at hpoint
  rcases hpoint with (hpoint | hpoint) | hpoint
  · exact absurd hpoint (by decide)
  · rcases (isComponentName_of_mem_decompose hclaim).chars _ hpoint with hchar | hchar <;>
      cases hchar
  · exact absurd hpoint (by decide)

/-- The module of a conversion declares its initial state. -/
theorem Follows.initialState_infix {c : Conversion} {l : Layout} (h : c.Follows l) :
    Module.initialState c.fields <:+: c.source := by
  obtain ⟨bundle, logic, hsource⟩ := h.source
  rw [hsource]
  exact Module.infix_assemble (by simp)

/-- The opening tag of a control ties it to its field, no other tag reads the state, no key is bound
twice, and a bound key is declared once in the initial state. -/
theorem binds_each_key_once {settings : Settings} {markup artifact override : Text}
    {theme : Theme} {c : Conversion}
    (h : convert settings markup artifact override theme = .ok c) :
    ∃ document, Document.parse settings.slash markup = .ok document ∧
      c.Follows (Layout.ofDocument c.name document) ∧
      (∀ node, .opening node ∈ (Layout.ofDocument c.name document).pieces →
        ∃ props, (Layout.ofDocument c.name document).emitter.Binds node props) ∧
      (∀ uid name, .reference uid name ∈ (Layout.ofDocument c.name document).pieces →
        ¬ "\x7bstate.".toList <:+: reference name) ∧
      (Layout.ofDocument c.name document).boundKeys.Nodup ∧
      (∀ key ∈ (Layout.ofDocument c.name document).boundKeys,
        (c.fields.map Field.key).count key = 1) ∧
      Module.initialState c.fields <:+: c.source := by
  -- what is said of the pieces of the layout holds of what the conversion has rendered
  obtain ⟨document, hparse, hfollows⟩ := follows_of_convert h
  have hd := Document.wellFormed_of_parse hparse
  refine ⟨document, hparse, hfollows, fun node hnode => ?_,
    fun uid name hreference => not_infix_reference hreference, Layout.nodup_boundKeys c.name hd,
    fun key hkey => ?_, hfollows.initialState_infix⟩
  · obtain ⟨text, htext⟩ := hfollows.exists_render hnode
    obtain ⟨props, hprops, -⟩ := Except.map_eq_ok.1 htext
    exact ⟨props, Emitter.binds_of_fragments hprops⟩
  · rw [hfollows.fields]
    exact Layout.count_boundKey c.name hkey

/-- A check box in a block, converted with the settings that hold at first. -/
theorem binds_each_key_once_checkbox :
    ∃ c document,
      convert Settings.default "<div><input type=checkbox name=a checked></div>".toList [] []
        Theme.default = .ok c ∧
      Document.parse .closes "<div><input type=checkbox name=a checked></div>".toList =
        .ok document ∧
      c.units.map ComponentUnit.body = [("<div><input type=\"checkbox\" name=\"a\" " ++
        "checked=\x7bstate.a\x7d onChange=\x7b(e) => update(\"a\", e.target.checked)\x7d />" ++
        "</div>").toList] ∧
      (∀ node, .opening node ∈ (Layout.ofDocument c.name document).pieces →
        ∃ props, (Layout.ofDocument c.name document).emitter.Binds node props) ∧
      (Layout.ofDocument c.name document).boundKeys.Nodup ∧
      Module.initialState c.fields <:+: c.source := by
  have hdecide : (convert Settings.default "<div><input type=checkbox name=a checked></div>".toList
      [] [] Theme.default).map (fun c => c.units.map ComponentUnit.body) =
      .ok [("<div><input type=\"checkbox\" name=\"a\" " ++ "checked=\x7bstate.a\x7d " ++
        "onChange=\x7b(e) => update(\"a\", e.target.checked)\x7d /></div>").toList] := by
    decide +kernel
  obtain ⟨c, hok, hbodies⟩ := Except.map_eq_ok.1 hdecide
  obtain ⟨document, hparse, -, hbinds, -, hnodup, -, hdeclared⟩ := binds_each_key_once hok
  exact ⟨c, document, hok, hparse, hbodies, hbinds, hnodup, hdeclared⟩

end Conversion

end Componentry
