import Componentry.Component.Conversion
import Componentry.Proofs.Outcome
import Componentry.Proofs.Template.Piece
import Componentry.Proofs.Text

/-!
# The layout of a component

A document determines what its component writes, piece by piece, before any of it is rendered: the
pieces of each unit, and for each node at the top of the body the pieces of its slot. A conversion
that succeeds renders exactly these pieces:

* `Layout.ofDocument`: the layout of a document;
* `Conversion.follows_of_convert`: a conversion follows the layout of its document.
-/

namespace Componentry

open Template

/-- What a component writes, piece by piece. -/
structure Layout where
  /-- What is known of the document while its templates are emitted. -/
  emitter : Emitter
  /-- The units in document order. -/
  claims : List Claim
  /-- The pieces of the slots, one for each node at the top of the body. -/
  slots : List (List Piece)

namespace Layout

/-- The names of the units that the root component mounts, by the numbers of their roots. -/
def mountedNames (claims : List Claim) : List (Int × Text) :=
  Conversion.unitNames (claims.filter (·.mounted))

/-- The pieces of the slot of a node at the top of the body, where the units `mounted` are
mounted. -/
def slot (emitter : Emitter) (mounted : List (Int × Text)) (node : Node) : List Piece :=
  match mounted.lookup node.uid with
  | some name => [.reference node.uid name]
  | none => if node.isElement then [] else emitter.pieces node.uid node

/-- The layout of the component `name` that a document becomes. -/
def ofDocument (name : Text) (document : Document) : Layout :=
  let claims := decompose document.body [name]
  let emitter : Emitter := ⟨inferFields document.root, Conversion.unitNames claims⟩
  { emitter
    claims
    slots := document.body.children.map (slot emitter (mountedNames claims)) }

/-- The pieces of a unit. -/
def body (l : Layout) (claim : Claim) : List Piece := l.emitter.pieces claim.root.uid claim.root

/-- All pieces of a component: those of its units, and those of its slots. -/
def pieces (l : Layout) : List Piece := l.claims.flatMap l.body ++ l.slots.flatten

/-- The nodes that a component writes, once for each time that it writes them. -/
def written (l : Layout) : List Node := Emitter.written l.pieces

theorem exists_claim_of_lookup {claims : List Claim} {uid : Int} {name : Text}
    (h : (Conversion.unitNames claims).lookup uid = some name) :
    ∃ claim ∈ claims, claim.root.uid = uid ∧ claim.name = name := by
  obtain ⟨claim, hclaim, heq⟩ := List.mem_map.1 (List.mem_of_lookup_eq_some h)
  obtain ⟨rfl, rfl⟩ := Prod.mk.inj heq
  exact ⟨claim, hclaim, rfl, rfl⟩

/-- The units that a component uses are units of the document. -/
theorem exists_claim_of_reference {component name : Text} {document : Document} {uid : Int}
    (h : .reference uid name ∈ (ofDocument component document).pieces) :
    ∃ claim ∈ decompose document.body [component], claim.root.uid = uid ∧ claim.name = name := by
  rcases List.mem_append.1 h with hmem | hmem
  · obtain ⟨claim, -, hmem⟩ := List.mem_flatMap.1 hmem
    exact exists_claim_of_lookup (Emitter.mem_units_of_reference hmem)
  · -- a slot uses a mounted unit, or the units inside its node
    obtain ⟨pieces, hpieces, hmem⟩ := List.mem_flatten.1 hmem
    obtain ⟨child, -, rfl⟩ := List.mem_map.1 hpieces
    rw [slot] at hmem
    split at hmem
    next unit hlookup =>
      rw [List.mem_singleton, Piece.reference.injEq] at hmem
      obtain ⟨rfl, rfl⟩ := hmem
      obtain ⟨claim, hclaim, hname⟩ := exists_claim_of_lookup hlookup
      exact ⟨claim, List.mem_of_mem_filter hclaim, hname⟩
    next =>
      split at hmem
      · cases hmem
      · exact exists_claim_of_lookup (Emitter.mem_units_of_reference hmem)

theorem body_subset {l : Layout} {claim : Claim} (h : claim ∈ l.claims) : l.body claim ⊆ l.pieces :=
  fun _ hpiece => List.mem_append_left _ (List.mem_flatMap_of_mem h hpiece)

theorem slots_subset (l : Layout) : l.slots.flatten ⊆ l.pieces :=
  fun _ hpiece => List.mem_append_right _ hpiece

/-- The element of an opening tag is written. -/
theorem mem_written_of_opening {l : Layout} {node : Node} (h : .opening node ∈ l.pieces) :
    node ∈ l.written :=
  List.mem_filterMap.2 ⟨_, h, rfl⟩

end Layout

namespace Module

/-- The parts of a module stand in its text. -/
theorem infix_assemble {component bundle root part : Text} {fields : List Field}
    {units : List ComponentUnit}
    (h : part ∈ [importLine, header component, styleConstant bundle, initialState fields] ++
      units.map unitText ++ [root]) :
    part <:+: assemble component bundle fields units root :=
  (Text.infix_intercalate h _).trans (List.prefix_append _ _).isInfix

end Module

namespace Conversion

/-- A unit renders the pieces of its claim. -/
structure UnitFollows (l : Layout) (claim : Claim) (unit : ComponentUnit) : Prop where
  /-- It has the name of the claim. -/
  name : unit.name = claim.name
  /-- It has the root of the claim. -/
  rootUid : unit.rootUid = claim.root.uid
  /-- It is mounted if the claim is. -/
  mounted : unit.mounted = claim.mounted
  /-- Its template consists of the pieces of the claim. -/
  body : l.emitter.renderAll (l.body claim) = .ok unit.body

/-- A conversion renders the pieces of a layout, and nothing else of the document's nodes. -/
structure Follows (c : Conversion) (l : Layout) : Prop where
  /-- Its fields are those of the layout. -/
  fields : c.fields = l.emitter.fields
  /-- Its units are those of the layout, in the same order. -/
  units : List.Forall₂ (UnitFollows l) l.claims c.units
  /-- Its slots are those of the layout, without those that show nothing. -/
  slots : ∃ texts,
    List.Forall₂ (fun slot text => l.emitter.renderAll slot = .ok text) l.slots texts ∧
    c.slots = Module.slotText (texts.filter (!·.isEmpty))
  /-- Its module consists of its parts, and of styles and scripts. -/
  source : ∃ bundle logic, c.source =
    Module.assemble c.name bundle c.fields c.units (Module.rootText c.name logic c.slots)

/-! ### Units -/

theorem unitOf_eq_ok {e : Emitter} {claim : Claim} {unit : ComponentUnit}
    (h : unitOf e claim = .ok unit) :
    unit.name = claim.name ∧ unit.rootUid = claim.root.uid ∧ unit.mounted = claim.mounted ∧
      e.renderAll (e.pieces claim.root.uid claim.root) = .ok unit.body := by
  obtain ⟨body, hbody, rfl⟩ := Except.map_eq_ok.1 h
  exact ⟨rfl, rfl, rfl, Emitter.emit_eq e claim.root ▸ hbody⟩

theorem forall₂_of_unitsOf {e : Emitter} {claims : List Claim} {units : List ComponentUnit}
    (h : unitsOf e claims = .ok units) :
    List.Forall₂ (fun claim unit => unitOf e claim = .ok unit) claims units := by
  induction claims generalizing units with
  | nil =>
    cases h
    exact .nil
  | cons claim claims ih =>
    rw [unitsOf] at h
    obtain ⟨unit, hunit, h⟩ := Except.bind_eq_ok.1 h
    obtain ⟨rest, hrest, h⟩ := Except.bind_eq_ok.1 h
    cases h
    exact .cons hunit (ih hrest)

/-- The units of the claims of a layout render the pieces of the claims. -/
theorem unitFollows_of_unitsOf {l : Layout} {units : List ComponentUnit}
    (h : unitsOf l.emitter l.claims = .ok units) :
    List.Forall₂ (UnitFollows l) l.claims units := by
  refine (forall₂_of_unitsOf h).imp fun claim unit hunit => ?_
  obtain ⟨hname, huid, hmounted, hbody⟩ := unitOf_eq_ok hunit
  exact ⟨hname, huid, hmounted, hbody⟩

/-- The mounted units have the names of the mounted claims. -/
theorem mountedNames_eq {l : Layout} {claims : List Claim} {units : List ComponentUnit}
    (h : List.Forall₂ (UnitFollows l) claims units) :
    ((units.filter (·.mounted)).map fun unit => (unit.rootUid, unit.name)) =
      Layout.mountedNames claims := by
  induction h with
  | nil => rfl
  | @cons claim unit claims units hunit _ ih =>
    rw [Layout.mountedNames, unitNames] at ih ⊢
    -- the unit is kept if its claim is
    rw [List.filter_cons, List.filter_cons, hunit.mounted]
    split
    · rw [List.map_cons, List.map_cons, ih, hunit.name, hunit.rootUid]
    · exact ih

/-! ### Slots -/

theorem emitInline_singleton (e : Emitter) (node : Node) :
    e.emitInline [node] = (e.emit node).map fun text => [text].filter (!·.isEmpty) := by
  rw [Emitter.emitInline]
  cases e.emit node with
  | error error => rfl
  | ok text => cases text <;> rfl

/-- The slot of a node renders its pieces, and is left out if they render to nothing. -/
theorem slots_cons (e : Emitter) (mounted : List (Int × Text)) (node : Node) (nodes : List Node) :
    Module.slots e mounted (node :: nodes) =
      (e.renderAll (Layout.slot e mounted node)).bind fun text =>
        (Module.slots e mounted nodes).map ([text].filter (!·.isEmpty) ++ ·) := by
  rw [Module.slots, Layout.slot]
  cases mounted.lookup node.uid with
  | some name =>
    -- a mounted unit is used, whose text is never empty
    have hreference : e.renderAll [.reference node.uid name] = .ok (reference name) :=
      Emitter.renderAll_singleton e _
    rw [hreference]
    cases Module.slots e mounted nodes <;> rfl
  | none =>
    by_cases helement : node.isElement
    · rw [if_pos helement]
      simp only [if_pos helement]
      cases Module.slots e mounted nodes <;> rfl
    · -- anything but an element is emitted in place
      rw [if_neg helement]
      simp only [if_neg helement]
      rw [emitInline_singleton, Emitter.emit_eq]
      cases e.renderAll (e.pieces node.uid node) with
      | error error => rfl
      | ok text => cases Module.slots e mounted nodes <;> rfl

/-- The slots of the root component render their pieces, and those that render to nothing are left
out. -/
theorem slots_eq_ok {e : Emitter} {mounted : List (Int × Text)} {nodes : List Node}
    {shown : List Text} (h : Module.slots e mounted nodes = .ok shown) :
    ∃ texts, List.Forall₂ (fun slot text => e.renderAll slot = .ok text)
      (nodes.map (Layout.slot e mounted)) texts ∧ shown = texts.filter (!·.isEmpty) := by
  induction nodes generalizing shown with
  | nil =>
    cases h
    exact ⟨[], .nil, rfl⟩
  | cons node nodes ih =>
    rw [slots_cons] at h
    obtain ⟨text, htext, h⟩ := Except.bind_eq_ok.1 h
    obtain ⟨rest, hrest, rfl⟩ := Except.map_eq_ok.1 h
    obtain ⟨texts, hall, rfl⟩ := ih hrest
    exact ⟨text :: texts, .cons htext hall, by rw [← List.filter_append]; rfl⟩

/-! ### Conversions -/

/-- The pieces of the layout that a conversion follows have texts. -/
theorem Follows.exists_render {c : Conversion} {l : Layout} (h : c.Follows l) {piece : Piece}
    (hpiece : piece ∈ l.pieces) : ∃ text, l.emitter.render piece = .ok text := by
  rcases List.mem_append.1 hpiece with hmem | hmem
  · obtain ⟨claim, hclaim, hmem⟩ := List.mem_flatMap.1 hmem
    obtain ⟨unit, -, hunit⟩ := h.units.exists_of_mem hclaim
    exact Emitter.exists_renderAll_iff.1 ⟨_, hunit.body⟩ piece hmem
  · obtain ⟨slot, hslot, hmem⟩ := List.mem_flatten.1 hmem
    obtain ⟨texts, hall, -⟩ := h.slots
    obtain ⟨text, -, htext⟩ := hall.exists_of_mem hslot
    exact Emitter.exists_renderAll_iff.1 ⟨_, htext⟩ piece hmem

/-- The conversion of a document follows the layout of the document. -/
theorem follows_of_ofDocument {settings : Settings} {name override : Text} {theme : Theme}
    {document : Document} {c : Conversion}
    (h : ofDocument settings name override theme document = .ok c) :
    c.Follows (Layout.ofDocument name document) := by
  rw [ofDocument] at h
  obtain ⟨units, hunits, h⟩ := Except.bind_eq_ok.1 h
  obtain ⟨shown, hshown, h⟩ := Except.bind_eq_ok.1 h
  cases h
  have hfollow : List.Forall₂ (UnitFollows (Layout.ofDocument name document))
      (Layout.ofDocument name document).claims units := unitFollows_of_unitsOf hunits
  -- the slots look the mounted units up by the names of their claims
  rw [mountedNames_eq hfollow] at hshown
  obtain ⟨texts, htexts, rfl⟩ := slots_eq_ok hshown
  exact ⟨rfl, hfollow, ⟨texts, htexts, rfl⟩, ⟨_, _, rfl⟩⟩

/-- The units of a conversion are those of the claims. -/
theorem unitsOf_of_ofDocument {settings : Settings} {name override : Text} {theme : Theme}
    {document : Document} {c : Conversion}
    (h : ofDocument settings name override theme document = .ok c) :
    unitsOf (Layout.ofDocument name document).emitter (Layout.ofDocument name document).claims =
      .ok c.units := by
  rw [ofDocument] at h
  obtain ⟨units, hunits, h⟩ := Except.bind_eq_ok.1 h
  obtain ⟨shown, -, h⟩ := Except.bind_eq_ok.1 h
  cases h
  exact hunits

theorem name_of_ofDocument {settings : Settings} {name override : Text} {theme : Theme}
    {document : Document} {c : Conversion}
    (h : ofDocument settings name override theme document = .ok c) : c.name = name := by
  rw [ofDocument] at h
  obtain ⟨units, -, h⟩ := Except.bind_eq_ok.1 h
  obtain ⟨shown, -, h⟩ := Except.bind_eq_ok.1 h
  cases h
  rfl

/-- A conversion that succeeds is that of the document that was read. -/
theorem ofDocument_of_convert {settings : Settings} {markup artifact override : Text}
    {theme : Theme} {c : Conversion} (h : convert settings markup artifact override theme = .ok c) :
    ∃ document, Document.parse settings.slash markup = .ok document ∧
      ofDocument settings c.name override theme document = .ok c := by
  rw [convert] at h
  cases hdocument : Document.parse settings.slash markup with
  | error rejection =>
    rw [hdocument] at h
    cases h
  | ok document =>
    rw [hdocument] at h
    dsimp only at h
    cases hconversion : ofDocument settings (nameOf settings artifact) override theme document with
    | error error =>
      rw [hconversion] at h
      cases h
    | ok conversion =>
      rw [hconversion] at h
      cases h
      refine ⟨document, rfl, ?_⟩
      rw [name_of_ofDocument hconversion]
      exact hconversion

/-- A conversion that succeeds follows the layout of the document that was read. -/
theorem follows_of_convert {settings : Settings} {markup artifact override : Text} {theme : Theme}
    {c : Conversion} (h : convert settings markup artifact override theme = .ok c) :
    ∃ document, Document.parse settings.slash markup = .ok document ∧
      c.Follows (Layout.ofDocument c.name document) := by
  obtain ⟨document, hparse, hconversion⟩ := ofDocument_of_convert h
  exact ⟨document, hparse, follows_of_ofDocument hconversion⟩

end Conversion

end Componentry
