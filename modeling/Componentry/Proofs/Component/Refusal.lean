import Componentry.Component.Request
import Componentry.Proofs.Component.Layout
import Componentry.Proofs.Markup.Refusal
import Componentry.Proofs.Template.Refusal

/-!
# Requests without a conversion

A request whose arguments have the right types has a conversion unless its markup is refused or an
element that is written has an attribute that is refused:

* `Conversion.exists_ofDocument_iff`: when a document has a conversion;
* `Request.converts_iff`: when a request has a conversion.
-/

namespace Componentry

open Template

namespace Conversion

theorem exists_unitsOf {e : Emitter} {claims : List Claim}
    (h : ∀ claim ∈ claims, ∃ text, e.renderAll (e.pieces claim.root.uid claim.root) = .ok text) :
    ∃ units, unitsOf e claims = .ok units := by
  induction claims with
  | nil => exact ⟨[], rfl⟩
  | cons claim claims ih =>
    rw [List.forall_mem_cons] at h
    obtain ⟨⟨text, htext⟩, hclaims⟩ := h
    obtain ⟨units, hunits⟩ := ih hclaims
    rw [← Emitter.emit_eq] at htext
    exact ⟨_, Except.bind_eq_ok.2 ⟨_, Except.map_eq_ok.2 ⟨text, htext, rfl⟩,
      Except.bind_eq_ok.2 ⟨units, hunits, rfl⟩⟩⟩

theorem exists_slots {e : Emitter} {mounted : List (Int × Text)} {nodes : List Node}
    (h : ∀ node ∈ nodes, ∃ text, e.renderAll (Layout.slot e mounted node) = .ok text) :
    ∃ shown, Module.slots e mounted nodes = .ok shown := by
  induction nodes with
  | nil => exact ⟨[], rfl⟩
  | cons node nodes ih =>
    rw [List.forall_mem_cons] at h
    obtain ⟨⟨text, htext⟩, hnodes⟩ := h
    obtain ⟨shown, hshown⟩ := ih hnodes
    rw [slots_cons]
    exact ⟨_, Except.bind_eq_ok.2 ⟨text, htext, Except.map_eq_ok.2 ⟨shown, hshown, rfl⟩⟩⟩

/-- A document has a conversion if all pieces of its layout have texts. -/
theorem exists_ofDocument_iff {settings : Settings} {name override : Text} {theme : Theme}
    {document : Document} :
    (∃ c, ofDocument settings name override theme document = .ok c) ↔
      ∀ piece ∈ (Layout.ofDocument name document).pieces,
        ∃ text, (Layout.ofDocument name document).emitter.render piece = .ok text := by
  constructor
  · rintro ⟨c, hc⟩ piece hpiece
    exact (follows_of_ofDocument hc).exists_render hpiece
  · intro hall
    have hbodies : ∀ claim ∈ (Layout.ofDocument name document).claims, ∃ text,
        (Layout.ofDocument name document).emitter.renderAll
          ((Layout.ofDocument name document).body claim) = .ok text :=
      fun claim hclaim => Emitter.exists_renderAll_iff.2 fun piece hpiece =>
        hall piece (Layout.body_subset hclaim hpiece)
    have hslots : ∀ slot ∈ (Layout.ofDocument name document).slots, ∃ text,
        (Layout.ofDocument name document).emitter.renderAll slot = .ok text :=
      fun slot hslot => Emitter.exists_renderAll_iff.2 fun piece hpiece =>
        hall piece (List.mem_append_right _ (List.mem_flatten_of_mem hslot hpiece))
    -- the units come first, since the slots use the mounted ones
    obtain ⟨units, hunits⟩ := exists_unitsOf hbodies
    have hfollow : List.Forall₂ (UnitFollows (Layout.ofDocument name document))
        (Layout.ofDocument name document).claims units := unitFollows_of_unitsOf hunits
    obtain ⟨shown, hshown⟩ : ∃ shown, Module.slots (Layout.ofDocument name document).emitter
        (Layout.mountedNames (Layout.ofDocument name document).claims) document.body.children =
          .ok shown :=
      exists_slots fun node hnode => hslots _ (List.mem_map_of_mem hnode)
    rw [← mountedNames_eq hfollow] at hshown
    exact ⟨_, Except.bind_eq_ok.2 ⟨units, hunits, Except.bind_eq_ok.2 ⟨shown, hshown, rfl⟩⟩⟩

/-- A markup text has a conversion unless it is refused, or an element that is written has an
attribute that is refused. -/
theorem exists_convert_iff {settings : Settings} {markup artifact override : Text}
    {theme : Theme} :
    (∃ c, convert settings markup artifact override theme = .ok c) ↔
      (∃ document, Document.parse settings.slash markup = .ok document) ∧
      ∀ document, Document.parse settings.slash markup = .ok document → ∀ node,
        .opening node ∈ (Layout.ofDocument (nameOf settings artifact) document).pieces →
        ∀ pair ∈ node.attributes, ¬ IsRefused pair := by
  rw [convert]
  cases hparse : Document.parse settings.slash markup with
  | error rejection => simp
  | ok document =>
    have hdocument : (∃ c, ofDocument settings (nameOf settings artifact) override theme document =
        .ok c) ↔ ∀ node,
        .opening node ∈ (Layout.ofDocument (nameOf settings artifact) document).pieces →
        ∀ pair ∈ node.attributes, ¬ IsRefused pair := by
      rw [exists_ofDocument_iff]
      -- only opening tags can be without a text
      simp only [Emitter.exists_render_iff]
      exact ⟨fun h node hnode => h _ hnode node rfl, fun h piece hpiece node heq =>
        h node (heq ▸ hpiece)⟩
    dsimp only
    constructor
    · rintro ⟨c, hc⟩
      refine ⟨⟨document, rfl⟩, fun d hd => ?_⟩
      cases hd
      refine hdocument.1 ?_
      cases hok : ofDocument settings (nameOf settings artifact) override theme document with
      | error error =>
        rw [hok] at hc
        cases hc
      | ok c => exact ⟨c, rfl⟩
    · rintro ⟨-, hall⟩
      obtain ⟨c, hc⟩ := hdocument.2 (hall document rfl)
      exact ⟨c, by rw [hc]⟩

end Conversion

namespace Request

/-- A request whose arguments have the right types has a conversion, unless the scanner gets to a
place where the markup is refused, or an element that is written has an attribute whose prop takes
an integer and whose value is one of too many digits. -/
theorem converts_iff {settings : Settings} {r : Request} {markup artifact override : Text}
    {theme : Theme} (h : r.check = .ok (markup, artifact, override, theme)) :
    (∃ c, r.run settings = .ok c) ↔
      (¬ ∃ rest, Markup.Meets (markup.filter (· ≠ '\uFEFF')) none rest ∧ Markup.IsRefusedAt rest) ∧
      ∀ document, Document.parse settings.slash markup = .ok document → ∀ node,
        .opening node ∈
          (Layout.ofDocument (Conversion.nameOf settings artifact) document).pieces →
        ∀ pair ∈ node.attributes, ¬ IsRefused pair := by
  have hconvert := @Conversion.exists_convert_iff settings markup artifact override theme
  rw [Document.exists_parse_iff] at hconvert
  rw [← hconvert, run, h]
  dsimp only
  cases Conversion.convert settings markup artifact override theme <;> simp

/-- A paragraph with an attribute that takes an integer. -/
theorem converts_iff_paragraph :
    ∃ c, Request.run Settings.default
        { markup := .value (.string "<p tabindex=2>a&#98;</p>".toList) } = .ok c ∧
      ¬ ∃ rest, Markup.Meets "<p tabindex=2>a&#98;</p>".toList none rest ∧
        Markup.IsRefusedAt rest := by
  have hcheck : Request.check { markup := .value (.string "<p tabindex=2>a&#98;</p>".toList) } =
      .ok ("<p tabindex=2>a&#98;</p>".toList, Settings.standardName, [], Theme.default) := rfl
  have hsome : (Request.run Settings.default
      { markup := .value (.string "<p tabindex=2>a&#98;</p>".toList) }).toOption.isSome := by
    decide +kernel
  obtain ⟨c, hc⟩ := Except.exists_ok_of_isSome hsome
  have hmarks : "<p tabindex=2>a&#98;</p>".toList.filter (· ≠ '\uFEFF') =
      "<p tabindex=2>a&#98;</p>".toList := by decide +kernel
  have hread := ((converts_iff hcheck).1 ⟨c, hc⟩).1
  rw [hmarks] at hread
  exact ⟨c, hc, hread⟩

/-- A marked section with an unknown name is refused, although all arguments have the right
types. -/
theorem unknown_section_refused :
    (∃ checked, Request.check { markup := .value (.string "<![x[y]]>".toList) } = .ok checked) ∧
      ¬ ∃ c, Request.run Settings.default { markup := .value (.string "<![x[y]]>".toList) } =
        .ok c := by
  have hrefused : Request.run Settings.default { markup := .value (.string "<![x[y]]>".toList) } =
      .error (.conversion (.rejected (.unknownSection "x".toList))) := rfl
  refine ⟨⟨_, rfl⟩, ?_⟩
  rintro ⟨c, hc⟩
  rw [hrefused] at hc
  cases hc

end Request

end Componentry
