import Componentry.Proofs.Component.Coverage
import Componentry.Proofs.Template.Reader

/-!
# Slots

The root component mirrors the body: in the order of the nodes at its top, it mounts the unit of
every element that is not left out, and shows the texts and comments in between.

* `Conversion.Shown`: what stands for a node at the top of the body;
* `Conversion.slots_mirror_body`: the slots of a conversion, and which units are mounted.
-/

namespace Componentry

open Node Template

namespace Conversion

/-- What the root component shows for a node at the top of the body, where it mounts some of
`units`. -/
inductive Shown (units : List ComponentUnit) (child : Node) : List Text → Prop
  /-- An element that is not left out is the root of a mounted unit, which is used. -/
  | unit {unit : ComponentUnit} : child.kind = .element → ¬ child.isDropped → unit ∈ units →
      unit.mounted → unit.rootUid = child.uid → Shown units child [reference unit.name]
  /-- Nothing is shown of an element that is left out. -/
  | dropped : child.kind = .element → child.isDropped → Shown units child []
  /-- A text is shown without the blanks around it. -/
  | text : child.kind = .text → ¬ (Text.trim child.content).isEmpty →
      Shown units child [escapeText (Text.trim child.content)]
  /-- Nothing is shown of a blank text. -/
  | blank : child.kind = .text → (Text.trim child.content).isEmpty → Shown units child []
  /-- A comment is shown as a comment. -/
  | comment : child.kind = .comment → Shown units child [Template.comment child.content]

variable {d : Document} {c : Conversion}

/-- A node that is the root of a mounted unit is shown by the use of the unit. -/
theorem shown_of_lookup (hd : d.WellFormed) (hfollows : c.Follows (Layout.ofDocument c.name d))
    {child : Node} (hchild : child ∈ d.body.children) {name : Text}
    (h : (Layout.mountedNames (decompose d.body [c.name])).lookup child.uid = some name) :
    Shown c.units child [reference name] := by
  -- only what can be claimed is the root of a unit
  have hclaimable : child.Claimable := by
    by_contra hnot
    rw [(Layout.mounted_lookup_eq_none c.name hd hchild).2 hnot] at h
    cases h
  obtain ⟨claim, hmem, huid, rfl⟩ := Layout.exists_claim_of_lookup h
  obtain ⟨hclaim, hmounted⟩ := List.mem_filter.1 hmem
  obtain ⟨unit, hunit, hunitFollows⟩ := hfollows.units.exists_of_mem hclaim
  rw [← hunitFollows.name]
  exact .unit hclaimable.element hclaimable.kept hunit (hunitFollows.mounted.trans hmounted)
    (hunitFollows.rootUid.trans huid)

/-- The text of a slot, if it has one, is what is shown of its node. -/
theorem shown_of_renderAll (hd : d.WellFormed) (hfollows : c.Follows (Layout.ofDocument c.name d))
    {child : Node} (hchild : child ∈ d.body.children) {text : Text}
    (h : (Layout.emitterOf c.name d).renderAll (Layout.slot (Layout.emitterOf c.name d)
      (Layout.mountedNames (decompose d.body [c.name])) child) = .ok text) :
    Shown c.units child ([text].filter (!·.isEmpty)) := by
  rw [Layout.slot] at h
  cases hlookup : (Layout.mountedNames (decompose d.body [c.name])).lookup child.uid with
  | some name =>
    rw [hlookup] at h
    dsimp only at h
    rw [Emitter.renderAll_singleton] at h
    obtain rfl : reference name = text := Except.ok.inj h
    exact shown_of_lookup hd hfollows hchild hlookup
  | none =>
    have hnot := (Layout.mounted_lookup_eq_none c.name hd hchild).1 hlookup
    rw [hlookup] at h
    dsimp only at h
    cases hkind : child.kind with
    | element =>
      have helement : child.isElement := decide_eq_true hkind
      rw [if_pos helement] at h
      obtain rfl := Except.ok.inj h
      -- an element without a unit is left out
      refine .dropped hkind ?_
      by_contra hkept
      exact hnot ⟨hkind, hkept⟩
    | text =>
      have helement : ¬ child.isElement := by simp [Node.isElement, hkind]
      rw [if_neg helement, Emitter.pieces_text _ _ hkind] at h
      by_cases hblank : (Text.trim child.content).isEmpty
      · rw [if_pos hblank] at h
        obtain rfl := Except.ok.inj h
        exact .blank hkind hblank
      · rw [if_neg hblank, Emitter.renderAll_singleton] at h
        obtain rfl : escapeText (Text.trim child.content) = text := Except.ok.inj h
        have hshown := Reader.escapeText_ne_nil fun hnil => hblank (List.isEmpty_iff.2 hnil)
        rw [List.filter_cons_of_pos (by simpa using hshown), List.filter_nil]
        exact .text hkind hblank
    | comment =>
      have helement : ¬ child.isElement := by simp [Node.isElement, hkind]
      rw [if_neg helement, Emitter.pieces_comment _ _ hkind, Emitter.renderAll_singleton] at h
      obtain rfl : Template.comment child.content = text := Except.ok.inj h
      exact .comment hkind

/-- The slots of the root component are, in the order of the nodes at the top of the body, the use
of the mounted unit with its root there for every element that is not left out, and the texts that
are not blank and the comments. The mounted units are those with their roots at the top of the
body, and no two units have the same root. -/
theorem slots_mirror_body {settings : Settings} {markup artifact override : Text} {theme : Theme}
    (h : convert settings markup artifact override theme = .ok c) :
    ∃ document, Document.parse settings.slash markup = .ok document ∧
      c.Follows (Layout.ofDocument c.name document) ∧
      (∃ shown, List.Forall₂ (Shown c.units) document.body.children shown ∧
        c.slots = Module.slotText shown.flatten) ∧
      (c.units.map ComponentUnit.rootUid).Nodup ∧
      ∀ unit ∈ c.units, unit.mounted ↔
        ∃ child ∈ document.body.children, child.uid = unit.rootUid := by
  obtain ⟨document, hparse, hfollows⟩ := follows_of_convert h
  have hd := Document.wellFormed_of_parse hparse
  refine ⟨document, hparse, hfollows, ?_, ?_, ?_⟩
  · obtain ⟨texts, htexts, hslots⟩ := hfollows.slots
    have hchildren : List.Forall₂ (fun child text => (Layout.emitterOf c.name document).renderAll
        (Layout.slot (Layout.emitterOf c.name document)
          (Layout.mountedNames (decompose document.body [c.name])) child) = .ok text)
        document.body.children texts := List.forall₂_map_left_iff.1 htexts
    refine ⟨texts.map fun text => [text].filter (!·.isEmpty), ?_, ?_⟩
    · rw [List.forall₂_map_right_iff]
      exact ((List.forall₂_and_left _ _).2 ⟨fun _ hchild => hchild, hchildren⟩).imp
        fun child text hslot => shown_of_renderAll hd hfollows hslot.1 hslot.2
    · -- what has no text is left out one by one
      rw [hslots, ← List.flatMap_def, ← List.filter_flatMap, List.flatMap_singleton']
  · rw [hfollows.units.map_eq_map fun _ _ hunit => hunit.rootUid]
    exact nodup_uids_decompose [c.name] hd.body_distinct
  · intro unit hunit
    have hflip : List.Forall₂ (flip (UnitFollows (Layout.ofDocument c.name document))) c.units
        (Layout.ofDocument c.name document).claims := hfollows.units.flip
    obtain ⟨claim, hclaim, hunitFollows⟩ := hflip.exists_of_mem hunit
    rw [hunitFollows.mounted, hunitFollows.rootUid,
      mounted_iff_mem_children hd.body_distinct hclaim]
    constructor
    · exact fun hroot => ⟨claim.root, hroot, rfl⟩
    · rintro ⟨child, hchild, huid⟩
      -- the child with the number of the root is the root
      have hroot := hd.body_distinct.eq_of_uid
        (mem_descendants_of_child hchild (mem_subtree_self child))
        (mem_descendants_of_mem_decompose hd.body_distinct hclaim) huid
      exact hroot ▸ hchild

/-- A text, a comment, a script and a block at the top of the body. -/
theorem slots_mirror_body_mixed :
    ∃ c document,
      convert Settings.default "a &amp; b<!-- n --><script>f()</script><p>c</p>".toList [] []
        Theme.default = .ok c ∧
      Document.parse .closes "a &amp; b<!-- n --><script>f()</script><p>c</p>".toList =
        .ok document ∧
      c.slots = Module.slotText ["a \x7b\"&\"\x7d b".toList, "\x7b/* n */\x7d".toList,
        "<P1 state=\x7bstate\x7d update=\x7bupdate\x7d />".toList] ∧
      ∃ shown, List.Forall₂ (Shown c.units) document.body.children shown ∧
        c.slots = Module.slotText shown.flatten := by
  have hdecide : (convert Settings.default
      "a &amp; b<!-- n --><script>f()</script><p>c</p>".toList [] [] Theme.default).map
      Conversion.slots = .ok (Module.slotText ["a \x7b\"&\"\x7d b".toList,
        "\x7b/* n */\x7d".toList, "<P1 state=\x7bstate\x7d update=\x7bupdate\x7d />".toList]) := by
    decide +kernel
  obtain ⟨c, hc, hslots⟩ := Except.map_eq_ok.1 hdecide
  obtain ⟨document, hparse, -, hshown, -⟩ := slots_mirror_body hc
  exact ⟨c, document, hc, hparse, hslots, hshown⟩

end Conversion

end Componentry
