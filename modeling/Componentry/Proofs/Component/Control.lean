import Componentry.Proofs.Component.Binding
import Componentry.Proofs.Component.Childless

/-!
# Controls

Fields are inferred from the controls of the whole document, and units are made of its body. The
control of a field is tied to it in a unit exactly if it lies below the body and emitting gets to
it. A control outside the body, inside something that is left out, or below a void element or a text
area has a field that nothing shows, unless a unit below that element has the control.

* `Layout.reaches_iff`: emitting writes what it gets to;
* `Conversion.ties_reached_controls`: which fields of a conversion are tied to their controls.
-/

namespace Componentry

open Node Template

namespace Layout

/-- Emitting gets to a node: it lies below the body, nothing on the path to it is left out, and the
path does not stay hidden below a void element or a text area. -/
def Reaches (l : Layout) (body node : Node) : Prop :=
  ∃ path, Descends body (path ++ [node]) ∧ (∀ m ∈ path ++ [node], ¬ m.isDropped) ∧
    ¬ l.StaysHidden (path ++ [node])

/-- The unit of a claim has the control of a field, with the props that tie it to the field. -/
def Ties (l : Layout) (claim : Claim) (field : Field) : Prop :=
  ∃ node props, .opening node ∈ l.body claim ∧ node.uid = field.uid ∧ l.emitter.Binds node props ∧
    TieTo field props

variable {d : Document} (name : Text)

/-- The path to a node that a unit writes is not cut. -/
theorem not_isCut_of_written (hd : d.WellFormed) {r n : Node} {path : List Node}
    (hr : r ∈ unitRoots d.body) (hn : n ∈ Emitter.written ((emitterOf name d).pieces r.uid r))
    (hpath : Descends d.body (path ++ [n])) : ¬ (emitterOf name d).IsCut (path ++ [n]) := by
  rintro ⟨outer, m, inner, hsplit, hinner, hlookup, hchildless⟩
  have hrdesc := mem_descendants_of_mem_unitRoots hd.body_distinct hr
  -- no root of a unit comes after the node that cuts, so the root of this one is not the last node
  have hafter : r ∉ inner := fun hmem =>
    (units_lookup_eq_none name hd hrdesc).1 (hlookup r hmem) hr
  obtain ⟨before, last, rfl⟩ := (List.eq_nil_or_concat inner).resolve_left hinner
  rw [List.concat_eq_append, ← List.cons_append, ← List.append_assoc] at hsplit
  obtain ⟨rfl, hlast⟩ := List.append_inj' hsplit rfl
  obtain rfl : n = last := by simpa using hlast
  have hne : n ≠ r := fun heq => hafter (by simp [heq])
  -- the nodes from the root on to the last one are passed, and the one that cuts is one of them
  obtain ⟨hleads, -⟩ := Emitter.mem_written_pieces_iff.1 hn
  obtain ⟨passed, hpassed, hpasses⟩ := (leadsBy_iff_exists_path hne).1 hleads
  obtain ⟨above, habove⟩ := mem_descendants_iff.1 hrdesc
  obtain ⟨heq, -⟩ := Descends.eq_of_uid hd.body_distinct hpath (habove.append hpassed) rfl
  rcases split_cases heq with rfl | hm | hr
  · exact (hpasses m List.mem_cons_self).content hchildless
  · exact (hpasses m (List.mem_cons_of_mem _ hm)).content hchildless
  · exact hafter (by simp [hr])

/-- An element below the body is written by a unit exactly if emitting gets to it. -/
theorem opening_mem_body_iff (hd : d.WellFormed) {node : Node} (helement : node.kind = .element) :
    (∃ claim ∈ decompose d.body [name], .opening node ∈ (ofDocument name d).body claim) ↔
      (ofDocument name d).Reaches d.body node := by
  -- the piece of an element is its opening tag
  have hown : ∀ root : Node, .opening node ∈ (emitterOf name d).pieces root.uid root ↔
      node ∈ Emitter.written ((emitterOf name d).pieces root.uid root) := fun root => by
    rw [Emitter.mem_written_pieces_iff, ← Emitter.ownPiece_mem_pieces_iff, Emitter.ownPiece,
      helement]
  constructor
  · rintro ⟨claim, hclaim, hmem⟩
    have hroot := mem_unitRoots_of_mem_decompose hclaim
    have hwritten := (hown claim.root).1 hmem
    obtain ⟨path, -, -, hpath, -, -, hkept⟩ := exists_path_of_written name hd hroot hwritten
    refine ⟨path, hpath, hkept, ?_⟩
    rw [← isCut_iff name hd hpath]
    exact not_isCut_of_written name hd hroot hwritten hpath
  · rintro ⟨path, hpath, hkept, hcut⟩
    rw [← isCut_iff name hd hpath] at hcut
    have hwritten := mem_written_of_kept name hd hpath hkept hcut fun htext => by
      rw [helement] at htext
      cases htext
    rcases (mem_written_iff name hd).1 hwritten with ⟨root, hroot, hmem⟩ | ⟨-, hkind, -⟩
    · obtain ⟨claim, hclaim, rfl⟩ := exists_claim_of_mem_unitRoots d.body [name] hroot
      exact ⟨claim, hclaim, (hown claim.root).2 hmem⟩
    · exact absurd helement hkind

end Layout

namespace Conversion

/-- A node whose opening tag a unit has lies below the body. -/
theorem mem_descendants_of_opening {d : Document} {name : Text} (hd : d.WellFormed) {claim : Claim}
    (hclaim : claim ∈ decompose d.body [name]) {node : Node}
    (h : .opening node ∈ (Layout.ofDocument name d).body claim) : node ∈ d.body.descendants :=
  Layout.mem_descendants_of_written name hd
    (Layout.mem_written_of_opening (Layout.body_subset hclaim h))

/-- A unit that writes the control of a field ties it to the field. -/
theorem ties_of_opening {d : Document} {c : Conversion}
    (hfollows : c.Follows (Layout.ofDocument c.name d)) {claim : Claim}
    (hclaim : claim ∈ decompose d.body [c.name]) {node : Node}
    (hmem : .opening node ∈ (Layout.ofDocument c.name d).body claim) {field : Field}
    (hfield : field ∈ inferFields d.root) (huid : field.uid = node.uid) :
    (Layout.ofDocument c.name d).Ties claim field := by
  -- what is written has a text, and so its props are known
  obtain ⟨text, htext⟩ := hfollows.exists_render (Layout.body_subset hclaim hmem)
  obtain ⟨props, hprops, -⟩ := Except.map_eq_ok.1 htext
  have hbinds := Emitter.binds_of_fragments hprops
  have hfind : Field.find? (inferFields d.root) node.uid = some field :=
    huid ▸ Field.find?_eq_some_of_mem (sound_inferFields d.root).2 hfield
  exact ⟨node, props, hmem, huid.symm, hbinds, hbinds.control field hfind⟩

/-- The fields of a conversion are those of the controls of the document, and a field is tied to its
control in some unit exactly if emitting gets to the control. -/
theorem ties_reached_controls {settings : Settings} {markup artifact override : Text}
    {theme : Theme} {c : Conversion}
    (h : convert settings markup artifact override theme = .ok c) :
    ∃ document, Document.parse settings.slash markup = .ok document ∧
      c.Follows (Layout.ofDocument c.name document) ∧
      (∀ node ∈ document.root.subtree, Control.isBindable node →
        ∃ field ∈ c.fields, field.uid = node.uid) ∧
      ∀ field ∈ c.fields, ∃ node ∈ document.root.subtree,
        Control.isBindable node ∧ node.uid = field.uid ∧
        ((∃ claim ∈ (Layout.ofDocument c.name document).claims,
            (Layout.ofDocument c.name document).Ties claim field) ↔
          (Layout.ofDocument c.name document).Reaches document.body node) := by
  obtain ⟨document, hparse, hfollows⟩ := follows_of_convert h
  have hd := Document.wellFormed_of_parse hparse
  have hfields : c.fields = inferFields document.root := hfollows.fields
  refine ⟨document, hparse, hfollows, fun node hnode hbindable => ?_, fun field hfield => ?_⟩
  · rw [hfields, ← List.mem_map]
    exact (Layout.mem_uids_fields_iff hd).2 ⟨node, hnode, hbindable, rfl⟩
  · rw [hfields] at hfield
    obtain ⟨node, hnode, hbindable, huid⟩ :=
      (Layout.mem_uids_fields_iff hd).1 (List.mem_map_of_mem hfield)
    have helement := (hd.tidy node hnode).element_of_isBindable hbindable
    refine ⟨node, hnode, hbindable, huid.symm, ?_⟩
    rw [← Layout.opening_mem_body_iff c.name hd helement]
    constructor
    · rintro ⟨claim, hclaim, n, props, hn, hn', -⟩
      -- the control is determined by its number
      have hmem := descendants_subset_of_mem hd.body_mem (mem_descendants_of_opening hd hclaim hn)
      obtain rfl := List.inj_on_of_nodup_map hd.distinct (mem_subtree_iff.2 (.inr hmem)) hnode
        (hn'.trans huid)
      exact ⟨claim, hclaim, hn⟩
    · rintro ⟨claim, hclaim, hn⟩
      exact ⟨claim, hclaim, ties_of_opening hfollows hclaim hn hfield huid⟩

/-- A text field in a block. -/
theorem ties_reached_controls_text :
    ∃ c document, convert Settings.default "<div><input name=a></div>".toList [] [] Theme.default =
        .ok c ∧
      Document.parse .closes "<div><input name=a></div>".toList = .ok document ∧
      ∀ field ∈ c.fields, ∃ node ∈ document.root.subtree,
        Control.isBindable node ∧ node.uid = field.uid ∧
        ((∃ claim ∈ (Layout.ofDocument c.name document).claims,
            (Layout.ofDocument c.name document).Ties claim field) ↔
          (Layout.ofDocument c.name document).Reaches document.body node) := by
  have hsome : (convert Settings.default "<div><input name=a></div>".toList [] []
      Theme.default).toOption.isSome := by decide +kernel
  obtain ⟨c, hok⟩ := Except.exists_ok_of_isSome hsome
  obtain ⟨document, hparse, -, -, hties⟩ := ties_reached_controls hok
  exact ⟨c, document, hok, hparse, hties⟩

/-- A control before the body, one in something that is left out, a text area and one inside it. -/
def scatteredControls : Text :=
  "<input name=a><body><noscript><input name=b></noscript>" ++
    "<textarea name=t><input name=c></textarea></body>"

/-- Of the controls that are scattered over a document, only the text area is tied to its field. -/
theorem scattered_controls_without_binding :
    ∃ c document, convert Settings.default scatteredControls [] [] Theme.default = .ok c ∧
      Document.parse .closes scatteredControls = .ok document ∧
      c.Follows (Layout.ofDocument c.name document) ∧
      c.fields.map Field.key = ["a".toList, "b".toList, "t".toList, "c".toList] ∧
      c.units.map ComponentUnit.body = [("<textarea name=\"t\" value=\x7bstate.t\x7d " ++
        "onChange=\x7b(e) => update(\"t\", e.target.value)\x7d />").toList] ∧
      ∃ field ∈ c.fields, ∀ claim ∈ (Layout.ofDocument c.name document).claims,
        ¬ (Layout.ofDocument c.name document).Ties claim field := by
  have hdecide : (convert Settings.default scatteredControls [] [] Theme.default).map
      (fun c => (c.fields.map Field.key, c.units.map ComponentUnit.body)) =
      .ok (["a".toList, "b".toList, "t".toList, "c".toList],
        [("<textarea name=\"t\" value=\x7bstate.t\x7d " ++
          "onChange=\x7b(e) => update(\"t\", e.target.value)\x7d />").toList]) := by
    decide +kernel
  have houtside : (Document.parse .closes scatteredControls).map (fun d => decide
      (∃ field ∈ inferFields d.root, ∀ node ∈ d.body.descendants, node.uid ≠ field.uid)) =
      .ok true := by
    decide +kernel
  obtain ⟨c, hc, heq⟩ := Except.map_eq_ok.1 hdecide
  obtain ⟨hkeys, hbodies⟩ := Prod.mk.inj heq
  obtain ⟨document, hparse, hfollows⟩ := follows_of_convert hc
  obtain ⟨d, hd, htrue⟩ := Except.map_eq_ok.1 houtside
  obtain rfl : document = d := Except.ok.inj (hparse.symm.trans hd)
  obtain ⟨field, hfield, hapart⟩ := of_decide_eq_true htrue
  refine ⟨c, document, hc, hparse, hfollows, hkeys, hbodies, field, hfollows.fields ▸ hfield, ?_⟩
  rintro claim hclaim ⟨node, props, hnode, huid, -⟩
  exact hapart node (mem_descendants_of_opening (Document.wellFormed_of_parse hparse) hclaim hnode)
    huid

end Conversion

end Componentry
