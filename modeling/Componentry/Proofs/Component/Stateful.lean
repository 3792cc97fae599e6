import Componentry.Proofs.Component.Control

/-!
# Stateful units

A unit is stateful if one of its own nodes has a state field. Its nodes are looked through without
regard to what emitting leaves out, so that a unit whose controls are all inside dropped content is
called stateful although its template ties nothing to the state:

* `Layout.mem_ownUids_iff`: which nodes are looked through;
* `Layout.opening_mem_body_iff_contains`: which of them the unit writes;
* `Conversion.stateful_tells`: when a unit is stateful, when it has a control that is tied to the
  state, and when the two agree.
-/

namespace Componentry

open Node Template

namespace Node

/-- A node is not the root of another unit than the one with the root `top`. -/
def IsOwn (units : List (Int × Text)) (top : Int) (node : Node) : Prop :=
  node.uid = top ∨ units.lookup node.uid = none

theorem ownUidsAll_eq_flatMap (units : List (Int × Text)) (top : Int) (nodes : List Node) :
    ownUidsAll units top nodes = nodes.flatMap (ownUids units top) := by
  induction nodes with
  | nil => rfl
  | cons node nodes ih => rw [ownUidsAll, ih, List.flatMap_cons]

theorem ownUids_of_isOwn {units : List (Int × Text)} {top : Int} {node : Node}
    (h : IsOwn units top node) :
    node.ownUids units top = node.uid :: node.children.flatMap (ownUids units top) := by
  obtain ⟨uid, kind, tag?, attributes, content, children⟩ := node
  change uid = top ∨ units.lookup uid = none at h
  rw [ownUids, ownUidsAll_eq_flatMap, if_neg]
  rcases h with htop | hlookup
  · simp [htop]
  · simp [hlookup]

theorem ownUids_of_not_isOwn {units : List (Int × Text)} {top : Int} {node : Node}
    (h : ¬ IsOwn units top node) : node.ownUids units top = [] := by
  obtain ⟨uid, kind, tag?, attributes, content, children⟩ := node
  change ¬ (uid = top ∨ units.lookup uid = none) at h
  rw [not_or] at h
  rw [ownUids, if_pos]
  simp [h.1, Option.isSome_iff_ne_none, h.2]

/-- The nodes that are looked through are those that a node leads to without passing the root of
another unit. -/
theorem mem_ownUids_iff {units : List (Int × Text)} {top u : Int} {node : Node} :
    u ∈ node.ownUids units top ↔
      ∃ n, LeadsBy (IsOwn units top) node n ∧ IsOwn units top n ∧ n.uid = u := by
  -- the induction is on the tree: a node that is looked through is passed, and so are its children
  induction node using Node.induct with
  | step node ih =>
    by_cases hown : IsOwn units top node
    · rw [ownUids_of_isOwn hown, List.mem_cons, List.mem_flatMap]
      constructor
      · rintro (rfl | ⟨child, hchild, hmem⟩)
        · exact ⟨node, .self node, hown, rfl⟩
        · obtain ⟨n, hleads, hn⟩ := (ih child hchild).1 hmem
          exact ⟨n, .child hown hchild hleads, hn⟩
      · rintro ⟨n, hleads, hn, rfl⟩
        rcases leadsBy_iff.1 hleads with rfl | ⟨-, child, hchild, hleads⟩
        · exact .inl rfl
        · exact .inr ⟨child, hchild, (ih child hchild).2 ⟨n, hleads, hn, rfl⟩⟩
    · -- nothing below the root of another unit is looked through
      rw [ownUids_of_not_isOwn hown]
      refine ⟨nofun, ?_⟩
      rintro ⟨n, hleads, hn, -⟩
      rcases leadsBy_iff.1 hleads with rfl | ⟨hpass, -⟩
      · exact absurd hn hown
      · exact absurd hpass hown

end Node

namespace Layout

/-- A node belongs to the unit of a claim: a path leads to it from the root of the unit, on which no
other unit has its root. -/
def Contains (l : Layout) (claim : Claim) (node : Node) : Prop :=
  ∃ outer inner, claim.root :: inner = outer ++ [node] ∧ Descends claim.root inner ∧
    ∀ m ∈ inner, l.emitter.units.lookup m.uid = none

variable {d : Document} (name : Text)

/-- A node belongs to a unit if the root leads to it without passing the root of another unit. -/
theorem contains_iff (hd : d.WellFormed) {claim : Claim} (hclaim : claim ∈ decompose d.body [name])
    {node : Node} : (ofDocument name d).Contains claim node ↔
      LeadsBy (IsOwn (emitterOf name d).units claim.root.uid) claim.root node ∧
        IsOwn (emitterOf name d).units claim.root.uid node := by
  -- no node below the root has the number of the root
  have hbelow : claim.root.uid ∉ claim.root.descendants.map Node.uid := by
    have hdistinct := hd.body_distinct.distinctWith_of_mem
      (mem_descendants_of_mem_decompose hd.body_distinct hclaim)
    rw [DistinctWith, subtree_eq_cons, List.map_cons, List.nodup_cons] at hdistinct
    exact hdistinct.1
  constructor
  · rintro ⟨outer, inner, hsplit, hinner, hlookup⟩
    have hown : ∀ m ∈ outer ++ [node], IsOwn (emitterOf name d).units claim.root.uid m := by
      rw [← hsplit, List.forall_mem_cons]
      exact ⟨.inl rfl, fun m hm => .inr (hlookup m hm)⟩
    rw [List.forall_mem_append, List.forall_mem_singleton] at hown
    exact ⟨leadsBy_of_path hinner hsplit hown.1, hown.2⟩
  · rintro ⟨hleads, hnode⟩
    obtain ⟨inner, outer, hinner, hsplit, houter⟩ := hleads.exists_path
    have hown : ∀ m ∈ claim.root :: inner, IsOwn (emitterOf name d).units claim.root.uid m := by
      rw [hsplit, List.forall_mem_append, List.forall_mem_singleton]
      exact ⟨houter, hnode⟩
    refine ⟨outer, inner, hsplit, hinner, fun m hm => ?_⟩
    refine (hown m (List.mem_cons_of_mem _ hm)).resolve_left fun huid => hbelow ?_
    exact huid ▸ List.mem_map_of_mem (hinner.mem_descendants hm)

/-- The nodes of a unit that are looked through for state fields are those that belong to it. -/
theorem mem_ownUids_iff (hd : d.WellFormed) {claim : Claim}
    (hclaim : claim ∈ decompose d.body [name]) {u : Int} :
    u ∈ claim.root.ownUids (emitterOf name d).units claim.root.uid ↔
      ∃ node, (ofDocument name d).Contains claim node ∧ node.uid = u := by
  rw [Node.mem_ownUids_iff]
  simp only [contains_iff name hd hclaim, and_assoc]

variable {name}

/-- A node that belongs to a unit lies below the body, and the path to it leads through the root of
the unit. -/
theorem Contains.exists_path (hd : d.WellFormed) {claim : Claim}
    (hclaim : claim ∈ decompose d.body [name]) {node : Node}
    (h : (ofDocument name d).Contains claim node) :
    ∃ path outer inner, Descends d.body (path ++ [node]) ∧
      path ++ [node] = outer ++ claim.root :: inner ∧ node ∈ claim.root :: inner ∧
      ∀ m ∈ inner, (emitterOf name d).units.lookup m.uid = none := by
  obtain ⟨before, inner, hsplit, hinner, hlookup⟩ := h
  obtain ⟨outer, houter⟩ := mem_descendants_iff.1
    (mem_descendants_of_mem_decompose hd.body_distinct hclaim)
  have hpath : outer ++ before ++ [node] = outer ++ claim.root :: inner := by
    rw [hsplit, List.append_assoc]
  refine ⟨outer ++ before, outer, inner, ?_, hpath, hsplit ▸ by simp, hlookup⟩
  rw [hpath]
  exact descends_append_cons.2 ⟨houter, hinner⟩

/-- A unit writes the elements that belong to it and that emitting gets to. -/
theorem opening_mem_body_iff_contains (hd : d.WellFormed) {claim : Claim}
    (hclaim : claim ∈ decompose d.body [name]) {node : Node} (helement : node.kind = .element) :
    .opening node ∈ (ofDocument name d).body claim ↔
      (ofDocument name d).Contains claim node ∧ (ofDocument name d).Reaches d.body node := by
  have hown : .opening node ∈ (emitterOf name d).pieces claim.root.uid claim.root ↔
      LeadsBy ((emitterOf name d).Passes claim.root.uid) claim.root node ∧
        (emitterOf name d).Shows claim.root.uid node := by
    rw [← Emitter.ownPiece_mem_pieces_iff, Emitter.ownPiece, helement]
  constructor
  · intro hmem
    obtain ⟨hleads, hshows⟩ := hown.1 hmem
    have hunit : ∀ m : Node, (emitterOf name d).unitAt claim.root.uid m.uid = none →
        IsOwn (emitterOf name d).units claim.root.uid m := by
      intro m hm
      rw [Emitter.unitAt, ite_eq_left_iff] at hm
      exact or_iff_not_imp_left.2 hm
    exact ⟨(contains_iff name hd hclaim).2
      ⟨hleads.mono fun m hm => hunit m hm.unit, hunit node (hshows.unit helement)⟩,
      (opening_mem_body_iff name hd helement).1 ⟨claim, hclaim, hmem⟩⟩
  · rintro ⟨hcontains, path, hpath, hkept, hcut⟩
    rw [← isCut_iff name hd hpath] at hcut
    obtain ⟨path', outer, inner, hpath', hsplit, hmem, hlookup⟩ := hcontains.exists_path hd hclaim
    -- there is one path to the node only
    obtain ⟨rfl, -⟩ := Descends.eq_of_uid hd.body_distinct hpath hpath' rfl
    refine hown.2 ⟨leadsBy_of_kept name hd hpath hsplit hlookup hkept hcut,
      fun _ => unitAt_eq_none hlookup hmem, fun _ => hkept node (by simp), fun htext => ?_⟩
    rw [helement] at htext
    cases htext

/-- A control belongs to the unit of a claim. -/
def HasControl (l : Layout) (claim : Claim) (node : Node) : Prop :=
  l.Contains claim node ∧ Control.isBindable node

/-- Of the nodes that belong to a unit, the controls are those that have a state field. -/
theorem mem_uids_fields_iff_of_contains (hd : d.WellFormed) {claim : Claim}
    (hclaim : claim ∈ decompose d.body [name]) {node : Node}
    (h : (ofDocument name d).Contains claim node) :
    node.uid ∈ (inferFields d.root).map Field.uid ↔ Control.isBindable node := by
  obtain ⟨path, -, -, hpath, -⟩ := h.exists_path hd hclaim
  have hmem : node ∈ d.root.subtree := mem_subtree_iff.2 (.inr
    (descendants_subset_of_mem hd.body_mem (hpath.mem_descendants (by simp))))
  rw [mem_uids_fields_iff hd]
  constructor
  · rintro ⟨other, hother, hbindable, huid⟩
    rwa [List.inj_on_of_nodup_map hd.distinct hmem hother huid]
  · exact fun hbindable => ⟨node, hmem, hbindable, rfl⟩

end Layout

namespace Conversion

/-- What the flag of a unit has to do with the controls of the unit. -/
structure Flags (l : Layout) (body : Node) (claim : Claim) (unit : ComponentUnit) : Prop where
  /-- The unit is stateful exactly if a control belongs to it. -/
  stateful : unit.stateful ↔ ∃ node, l.HasControl claim node
  /-- Its template ties a control to the state exactly if emitting gets to a control that belongs to
  it. -/
  tied : (∃ field ∈ l.emitter.fields, l.Ties claim field) ↔
    ∃ node, l.HasControl claim node ∧ l.Reaches body node
  /-- The two agree exactly if the unit has no control, or one that emitting gets to. -/
  truthful : (unit.stateful ↔ ∃ field ∈ l.emitter.fields, l.Ties claim field) ↔
    ((∃ node, l.HasControl claim node) → ∃ node, l.HasControl claim node ∧ l.Reaches body node)

theorem stateful_of_unitOf {e : Emitter} {claim : Claim} {unit : ComponentUnit}
    (h : unitOf e claim = .ok unit) :
    unit.stateful ↔ ∃ u ∈ claim.root.ownUids e.units claim.root.uid,
      u ∈ e.fields.map Field.uid := by
  obtain ⟨body, -, rfl⟩ := Except.map_eq_ok.1 h
  simp only [List.any_eq_true, Field.isSome_find?_iff]

variable {d : Document} {c : Conversion}

/-- A unit has the binding of a control exactly if the control belongs to it and emitting gets
there. -/
theorem exists_ties_iff (hd : d.WellFormed) (hfollows : c.Follows (Layout.ofDocument c.name d))
    {claim : Claim} (hclaim : claim ∈ decompose d.body [c.name]) :
    (∃ field ∈ inferFields d.root, (Layout.ofDocument c.name d).Ties claim field) ↔
      ∃ node, (Layout.ofDocument c.name d).HasControl claim node ∧
        (Layout.ofDocument c.name d).Reaches d.body node := by
  constructor
  · rintro ⟨field, hfield, node, props, hmem, huid, -⟩
    have helement : node.kind = .element := by
      obtain ⟨n, -, hown⟩ := Emitter.exists_own_of_mem_pieces hmem
      cases hown
      assumption
    -- what the unit writes belongs to it, and emitting gets there
    obtain ⟨hcontains, hreach⟩ := (Layout.opening_mem_body_iff_contains hd hclaim helement).1 hmem
    exact ⟨node, ⟨hcontains, (Layout.mem_uids_fields_iff_of_contains hd hclaim hcontains).1
      (huid ▸ List.mem_map_of_mem hfield)⟩, hreach⟩
  · rintro ⟨node, ⟨hcontains, hbindable⟩, hreach⟩
    obtain ⟨path, -, -, hpath, -⟩ := hcontains.exists_path hd hclaim
    have helement := (hd.tidy_of_descendant
      (hpath.mem_descendants (by simp))).element_of_isBindable hbindable
    have hmem := (Layout.opening_mem_body_iff_contains hd hclaim helement).2 ⟨hcontains, hreach⟩
    obtain ⟨field, hfield, huid⟩ := List.mem_map.1
      ((Layout.mem_uids_fields_iff_of_contains hd hclaim hcontains).2 hbindable)
    exact ⟨field, hfield, ties_of_opening hfollows hclaim hmem hfield huid⟩

theorem flags_of_unitOf (hd : d.WellFormed) (hfollows : c.Follows (Layout.ofDocument c.name d))
    {claim : Claim} (hclaim : claim ∈ decompose d.body [c.name]) {unit : ComponentUnit}
    (hunit : unitOf (Layout.ofDocument c.name d).emitter claim = .ok unit) :
    Flags (Layout.ofDocument c.name d) d.body claim unit := by
  -- the nodes that are looked through are those of the unit, and their fields are their controls
  have hstateful : unit.stateful ↔ ∃ node, (Layout.ofDocument c.name d).HasControl claim node := by
    rw [stateful_of_unitOf hunit]
    constructor
    · rintro ⟨u, hu, hfield⟩
      obtain ⟨node, hcontains, rfl⟩ := (Layout.mem_ownUids_iff c.name hd hclaim).1 hu
      exact ⟨node, hcontains, (Layout.mem_uids_fields_iff_of_contains hd hclaim hcontains).1 hfield⟩
    · rintro ⟨node, hcontains, hbindable⟩
      exact ⟨node.uid, (Layout.mem_ownUids_iff c.name hd hclaim).2 ⟨node, hcontains, rfl⟩,
        (Layout.mem_uids_fields_iff_of_contains hd hclaim hcontains).2 hbindable⟩
  have htied := exists_ties_iff hd hfollows hclaim
  refine ⟨hstateful, htied, (iff_congr hstateful htied).trans ?_⟩
  -- a control that emitting gets to is a control
  exact ⟨fun h => h.1, fun h => ⟨h, fun ⟨node, hcontrol, _⟩ => ⟨node, hcontrol⟩⟩⟩

/-- The flag of a unit tells whether a control belongs to it, while its template ties a control to
the state only if emitting gets to one. So the flag is right exactly for the units that have no
control, or one that emitting gets to. -/
theorem stateful_tells {settings : Settings} {markup artifact override : Text} {theme : Theme}
    (h : convert settings markup artifact override theme = .ok c) :
    ∃ document, Document.parse settings.slash markup = .ok document ∧
      c.Follows (Layout.ofDocument c.name document) ∧
      List.Forall₂ (Flags (Layout.ofDocument c.name document) document.body)
        (Layout.ofDocument c.name document).claims c.units := by
  obtain ⟨document, hparse, hconversion⟩ := ofDocument_of_convert h
  have hd := Document.wellFormed_of_parse hparse
  have hfollows := follows_of_ofDocument hconversion
  refine ⟨document, hparse, hfollows, ?_⟩
  have hunits := forall₂_of_unitsOf (unitsOf_of_ofDocument hconversion)
  exact ((List.forall₂_and_left _ _).2 ⟨fun _ hclaim => hclaim, hunits⟩).imp
    fun claim unit hunit => flags_of_unitOf hd hfollows hunit.1 hunit.2

/-- A text field in a block. -/
theorem stateful_tells_text :
    ∃ c document, convert Settings.default "<div><input name=a></div>".toList [] [] Theme.default =
        .ok c ∧
      Document.parse .closes "<div><input name=a></div>".toList = .ok document ∧
      c.units.map ComponentUnit.stateful = [true] ∧
      List.Forall₂ (Flags (Layout.ofDocument c.name document) document.body)
        (Layout.ofDocument c.name document).claims c.units := by
  have hdecide : (convert Settings.default "<div><input name=a></div>".toList [] []
      Theme.default).map (fun c => c.units.map ComponentUnit.stateful) = .ok [true] := by
    decide +kernel
  obtain ⟨c, hc, hstateful⟩ := Except.map_eq_ok.1 hdecide
  obtain ⟨document, hparse, -, hflags⟩ := stateful_tells hc
  exact ⟨c, document, hc, hparse, hstateful, hflags⟩

/-- A block whose only control is in dropped content is stateful, and ties nothing to the state. -/
theorem stateful_without_binding :
    ∃ c document,
      convert Settings.default "<div><noscript><input name=a></noscript></div>".toList [] []
        Theme.default = .ok c ∧
      Document.parse .closes "<div><noscript><input name=a></noscript></div>".toList =
        .ok document ∧
      c.Follows (Layout.ofDocument c.name document) ∧
      c.units.map (fun unit => (unit.stateful, unit.body)) = [(true, "<div></div>".toList)] ∧
      c.statefulCount = 1 ∧
      ∀ claim ∈ (Layout.ofDocument c.name document).claims, ∀ field ∈ c.fields,
        ¬ (Layout.ofDocument c.name document).Ties claim field := by
  have hdecide : (convert Settings.default
      "<div><noscript><input name=a></noscript></div>".toList [] [] Theme.default).map
      (fun c => (c.name, c.units.map (fun unit => (unit.stateful, unit.body)), c.statefulCount)) =
      .ok (Settings.standardName, [(true, "<div></div>".toList)], 1) := by
    decide +kernel
  have hwritten : (Document.parse .closes
      "<div><noscript><input name=a></noscript></div>".toList).map (fun d =>
        let l := Layout.ofDocument Settings.standardName d
        decide (∀ claim ∈ l.claims, ∀ field ∈ l.emitter.fields,
          field.uid ∉ (Emitter.written (l.body claim)).map Node.uid)) = .ok true := by
    decide +kernel
  obtain ⟨c, hc, heq⟩ := Except.map_eq_ok.1 hdecide
  obtain ⟨hname, heq⟩ := Prod.mk.inj heq
  obtain ⟨hunits, hcount⟩ := Prod.mk.inj heq
  obtain ⟨document, hparse, hfollows⟩ := follows_of_convert hc
  obtain ⟨d, hd, htrue⟩ := Except.map_eq_ok.1 hwritten
  obtain rfl : document = d := Except.ok.inj (hparse.symm.trans hd)
  refine ⟨c, document, hc, hparse, hfollows, hunits, hcount, ?_⟩
  rintro claim hclaim field hfield ⟨node, props, hnode, huid, -⟩
  rw [hfollows.fields] at hfield
  rw [hname] at hclaim hfield hnode
  refine of_decide_eq_true htrue claim hclaim field hfield ?_
  rw [← huid]
  exact List.mem_map_of_mem (List.mem_filterMap.2 ⟨_, hnode, rfl⟩)

end Conversion

end Componentry
