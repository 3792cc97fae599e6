import Componentry.Proofs.Casing
import Componentry.Proofs.Numeral.Integer
import Componentry.Proofs.Template.Fragment
import Componentry.Proofs.Template.Piece

/-!
# Attributes without a prop

Only one thing keeps an opening tag from being written: an attribute whose prop takes an integer has
one of too many digits.

* `Template.fragment?_eq_error_iff`: the error of an attribute;
* `Template.Emitter.exists_render_iff`: when a piece has a text;
* `Template.Emitter.emits_unless_refused`: when a node has a template.
-/

namespace Componentry.Template

open Numeral

/-- An attribute is refused: its prop takes an integer, and its value is one of too many digits. -/
structure IsRefused (pair : Text × Text) : Prop where
  /-- The attribute has a prop. -/
  hasProp : hasProp pair.1
  /-- The prop takes an integer. -/
  numeric : numericProps.contains (propName pair.1)
  /-- The integer has too many digits. -/
  overlong : IsOverlong pair.2

theorem isOverlong_replicate {n : Nat} (h : maxDigits < n) : IsOverlong (List.replicate n '1') := by
  have hne : n ≠ 0 := by omega
  have hone : ∀ c ∈ List.replicate n '1', c = '1' := fun c hc => List.eq_of_mem_replicate hc
  have htrim : Text.trim (List.replicate n '1') = List.replicate n '1' := by
    refine Text.trim_eq_self (fun c hc => ?_) (fun c hc => ?_)
    · rw [hone c (List.mem_of_head? hc)]
      decide
    · rw [hone c (List.mem_of_getLast? hc)]
      decide
  obtain ⟨m, rfl⟩ := Nat.exists_eq_succ_of_ne_zero hne
  rw [IsOverlong, htrim, List.replicate_succ]
  constructor
  · rw [isInteger]
    · simp only [List.isEmpty_cons, Bool.not_false, Bool.true_and, List.all_eq_true]
      intro c hc
      rw [hone c hc]
      decide
    · -- a digit is no minus sign
      intro digits heq
      cases heq
  · rw [digitCount]
    · rwa [List.length_cons, List.length_replicate]
    · intro digits heq
      cases heq

/-- A prop that takes an integer is none of those that are dealt with otherwise. -/
theorem numericProps_apart {prop : Text} (h : numericProps.contains prop) :
    ¬ controlledProps.contains prop ∧ prop ≠ "selected".toList ∧ prop ≠ "style".toList ∧
      ¬ isEventName prop ∧ ¬ booleanProps.contains prop := by
  have hall : numericProps.all fun prop => !(controlledProps.contains prop ||
      (prop = "selected".toList || (prop = "style".toList ||
        (isEventName prop || booleanProps.contains prop)))) := by decide
  have hprop := List.all_eq_true.1 hall prop (List.contains_iff_mem.1 h)
  simpa only [Bool.not_eq_true', Bool.or_eq_false_iff, decide_eq_false_iff_not,
    Bool.not_eq_true] using hprop

/-- The one error of an attribute is that of an integer of too many digits, where the prop takes an
integer. -/
theorem expression?_eq_error_iff {name prop value : Text} {error : IntegerError} :
    expression? name prop value = .error error ↔
      (numericProps.contains prop ∧ IsOverlong value) ∧
        error = .tooLong (digitCount (Text.trim value)) := by
  constructor
  · intro h
    rw [expression?] at h
    split_ifs at h with hstyle hevent hboolean hempty hinteger
    -- only the value of a prop that takes an integer is read
    obtain ⟨hnumeric, hinteger⟩ := Bool.and_eq_true_iff.1 hinteger
    rw [Except.map_eq_error, readInteger_eq hinteger] at h
    split at h
    next hlong =>
      cases h
      exact ⟨⟨hnumeric, hinteger, hlong⟩, rfl⟩
    next => cases h
  · rintro ⟨⟨hnumeric, hinteger, hlong⟩, rfl⟩
    -- the prop is none of those that come before the integers, and an integer is not empty
    obtain ⟨-, -, hstyle, hevent, hboolean⟩ := numericProps_apart hnumeric
    have hvalue : ¬ value.isEmpty := by
      intro hempty
      rw [List.isEmpty_iff.1 hempty] at hinteger
      cases hinteger
    rw [expression?, if_neg hstyle, if_neg hevent, if_neg hboolean, if_neg hvalue,
      if_pos (by rw [hnumeric, hinteger]; rfl), Except.map_eq_error, readInteger_eq hinteger,
      if_pos hlong]

theorem fragment?_eq_error_iff {name value tag : Text} {bound : Bool} {error : IntegerError} :
    fragment? name value bound tag = .error error ↔
      IsRefused (name, value) ∧ error = .tooLong (digitCount (Text.trim value)) := by
  constructor
  · intro h
    rw [fragment?] at h
    split at h
    · cases h
    next hprop =>
      dsimp only at h
      split_ifs at h
      rw [Except.map_eq_error, expression?_eq_error_iff] at h
      exact ⟨⟨by simpa using hprop, h.1.1, h.1.2⟩, h.2⟩
  · rintro ⟨⟨hprop, hnumeric, hlong⟩, rfl⟩
    -- a prop that takes an integer is not left out
    obtain ⟨hcontrolled, hselected, -⟩ := numericProps_apart hnumeric
    rw [fragment?, if_neg (by simp [hprop])]
    dsimp only
    rw [if_neg (by simp only [Bool.and_eq_true]; exact fun h => hcontrolled h.2),
      if_neg (by simp only [Bool.and_eq_true, decide_eq_true_eq]; exact fun h => hselected h.2),
      Except.map_eq_error, expression?_eq_error_iff]
    exact ⟨⟨hnumeric, hlong⟩, rfl⟩

/-- An attribute gives a prop or none, unless it is refused. -/
theorem exists_fragment?_iff {name value tag : Text} {bound : Bool} :
    (∃ f, fragment? name value bound tag = .ok f) ↔ ¬ IsRefused (name, value) := by
  simp only [Except.exists_ok_iff, ne_eq, fragment?_eq_error_iff]
  exact ⟨fun h hrefused => h _ ⟨hrefused, rfl⟩, fun h _ herror => h herror.1⟩

namespace Emitter

theorem exists_attributeFragments_iff {bound : Bool} {tag : Text}
    {attributes : List (Text × Text)} :
    (∃ props, attributeFragments bound tag attributes = .ok props) ↔
      ∀ pair ∈ attributes, ¬ IsRefused pair := by
  induction attributes with
  | nil => simp [attributeFragments]
  | cons pair attributes ih =>
    have hfirst : (∃ prop?, fragment? pair.1 pair.2 bound tag = .ok prop?) ↔ ¬ IsRefused pair :=
      exists_fragment?_iff
    rw [List.forall_mem_cons, ← ih, ← hfirst]
    -- the attributes are taken one by one
    constructor
    · rintro ⟨props, h⟩
      obtain ⟨prop?, rest, hprop, hrest, -⟩ := attributeFragments_cons_eq_ok.1 h
      exact ⟨⟨prop?, hprop⟩, ⟨rest, hrest⟩⟩
    · rintro ⟨⟨prop?, hprop⟩, ⟨rest, hrest⟩⟩
      exact ⟨_, attributeFragments_cons_eq_ok.2 ⟨prop?, rest, hprop, hrest, rfl⟩⟩

theorem refused_of_attributeFragments_eq_error {bound : Bool} {tag : Text}
    {attributes : List (Text × Text)} {error : IntegerError}
    (h : attributeFragments bound tag attributes = .error error) :
    ∃ pair ∈ attributes, IsRefused pair ∧ error = .tooLong (digitCount (Text.trim pair.2)) := by
  induction attributes with
  | nil => cases h
  | cons pair attributes ih =>
    obtain ⟨name, value⟩ := pair
    rw [attributeFragments] at h
    rcases Except.bind_eq_error.1 h with hfirst | ⟨f, -, h⟩
    · exact ⟨(name, value), List.mem_cons_self, fragment?_eq_error_iff.1 hfirst⟩
    · rcases Except.bind_eq_error.1 h with hrest | ⟨rest, -, h⟩
      · obtain ⟨pair, hpair, hrefused⟩ := ih hrest
        exact ⟨pair, List.mem_cons_of_mem _ hpair, hrefused⟩
      · cases h

/-- A piece has a text, unless it is the opening tag of an element with a refused attribute. -/
theorem exists_render_iff {e : Emitter} {piece : Piece} :
    (∃ text, e.render piece = .ok text) ↔
      ∀ node, piece = .opening node → ∀ pair ∈ node.attributes, ¬ IsRefused pair := by
  cases piece with
  | opening node =>
    have hprops : (∃ props, attributeFragments (Field.find? e.fields node.uid).isSome
        (node.tag?.getD []) node.attributes = .ok props) ↔ _ := exists_attributeFragments_iff
    constructor
    · rintro ⟨text, htext⟩ n hn
      cases hn
      obtain ⟨props, hfragments, -⟩ := Except.map_eq_ok.1 htext
      obtain ⟨own, hown, -⟩ := fragments_eq_ok.1 hfragments
      -- the props of the field have texts in any case
      exact hprops.1 ⟨own, hown⟩
    · intro hall
      obtain ⟨own, hown⟩ := hprops.2 (hall node rfl)
      exact ⟨_, Except.map_eq_ok.2 ⟨_, fragments_eq_ok.2 ⟨own, hown, rfl⟩, rfl⟩⟩
  | _ =>
    constructor
    · intro _ node hnode
      cases hnode
    · intro _
      exact ⟨_, rfl⟩

theorem refused_of_render_eq_error {e : Emitter} {piece : Piece} {error : IntegerError}
    (h : e.render piece = .error error) :
    ∃ node, piece = .opening node ∧ ∃ pair ∈ node.attributes,
      IsRefused pair ∧ error = .tooLong (digitCount (Text.trim pair.2)) := by
  cases piece with
  | opening node =>
    rw [render, openTag, Except.map_eq_error, fragments] at h
    exact ⟨node, rfl, refused_of_attributeFragments_eq_error (Except.map_eq_error.1 h)⟩
  | _ => cases h

/-- Pieces have no text if one of them has none. -/
theorem exists_of_renderAll_eq_error {e : Emitter} {pieces : List Piece} {error : IntegerError}
    (h : e.renderAll pieces = .error error) : ∃ piece ∈ pieces, e.render piece = .error error := by
  induction pieces with
  | nil => cases h
  | cons piece pieces ih =>
    rw [renderAll_cons] at h
    rcases Except.bind_eq_error.1 h with hfirst | ⟨text, -, h⟩
    · exact ⟨piece, List.mem_cons_self, hfirst⟩
    · obtain ⟨other, hother, hrender⟩ := ih (Except.map_eq_error.1 h)
      exact ⟨other, List.mem_cons_of_mem _ hother, hrender⟩

/-! ### Templates -/

/-- The template of `root` has the opening tag of an element: emitting gets to the element and
writes it. -/
structure Opens (e : Emitter) (root node : Node) : Prop where
  /-- The node is an element. -/
  element : node.kind = .element
  /-- Emitting goes on below every node on the way to it. -/
  reached : Node.LeadsBy (e.Passes root.uid) root node
  /-- It is not the root of another unit, and it is not left out. -/
  shown : e.Shows root.uid node

theorem opening_mem_pieces_iff {e : Emitter} {root node : Node} :
    .opening node ∈ e.pieces root.uid root ↔ e.Opens root node := by
  constructor
  · intro h
    obtain ⟨n, -, hown⟩ := exists_own_of_mem_pieces h
    cases hown with
    | opening hkind =>
      have hpiece : ownPiece node = .opening node := by rw [ownPiece, hkind]
      obtain ⟨hleads, hshows⟩ := ownPiece_mem_pieces_iff.1 (hpiece ▸ h)
      exact ⟨hkind, hleads, hshows⟩
  · intro h
    have hpiece : ownPiece node = .opening node := by rw [ownPiece, h.element]
    exact hpiece ▸ ownPiece_mem_pieces_iff.2 ⟨h.reached, h.shown⟩

theorem exists_emit_iff {e : Emitter} {root : Node} :
    (∃ text, e.emit root = .ok text) ↔
      ∀ node, e.Opens root node → ∀ pair ∈ node.attributes, ¬ IsRefused pair := by
  rw [emit_eq, exists_renderAll_iff]
  simp only [exists_render_iff]
  constructor
  · exact fun h node hnode => h _ (opening_mem_pieces_iff.2 hnode) node rfl
  · rintro h piece hpiece node rfl
    exact h node (opening_mem_pieces_iff.1 hpiece)

theorem refused_of_emit_eq_error {e : Emitter} {root : Node} {error : IntegerError}
    (h : e.emit root = .error error) :
    ∃ node, e.Opens root node ∧ ∃ pair ∈ node.attributes,
      IsRefused pair ∧ error = .tooLong (digitCount (Text.trim pair.2)) := by
  rw [emit_eq] at h
  obtain ⟨piece, hpiece, hrender⟩ := exists_of_renderAll_eq_error h
  obtain ⟨node, rfl, hrefused⟩ := refused_of_render_eq_error hrender
  exact ⟨node, opening_mem_pieces_iff.1 hpiece, hrefused⟩

theorem exists_emitInline_iff {e : Emitter} {nodes : List Node} :
    (∃ texts, e.emitInline nodes = .ok texts) ↔
      ∀ node ∈ nodes, ∃ text, e.emit node = .ok text := by
  induction nodes with
  | nil => simp [emitInline]
  | cons node nodes ih =>
    rw [List.forall_mem_cons, ← ih, emitInline]
    constructor
    · rintro ⟨texts, h⟩
      obtain ⟨text, htext, h⟩ := Except.bind_eq_ok.1 h
      obtain ⟨rest, hrest, -⟩ := Except.bind_eq_ok.1 h
      exact ⟨⟨text, htext⟩, ⟨rest, hrest⟩⟩
    · rintro ⟨⟨text, htext⟩, ⟨rest, hrest⟩⟩
      exact ⟨_, Except.bind_eq_ok.2 ⟨text, htext, Except.bind_eq_ok.2 ⟨rest, hrest, rfl⟩⟩⟩

end Emitter

/-- An event attribute has a third letter to be made a capital, or a name of its own. -/
theorem exists_eventProp? {name : Text} (h : isEventName name.lower) :
    ∃ prop, eventProp? name.lower = some prop := by
  obtain ⟨hlength, -⟩ := Bool.and_eq_true_iff.1 h
  rw [eventProp?, Text.lower_lower]
  split
  · exact ⟨_, rfl⟩
  · split
    · exact ⟨_, rfl⟩
    next hshort =>
      exfalso
      have hlong := of_decide_eq_true hlength
      rcases hname : name.lower with _ | ⟨a, _ | ⟨b, _ | ⟨c, rest⟩⟩⟩
      · simp [hname] at hlong
      · simp [hname] at hlong
      · simp [hname] at hlong
      · exact hshort a b c rest hname

namespace Emitter

/-- A node has a template, and loose nodes have theirs, unless the template would have the opening
tag of an element with a refused attribute. There is no other error: the name of every event is long
enough for its prop, and an integer of too many digits is the only value that is refused. -/
theorem emits_unless_refused (e : Emitter) :
    (∀ root, (∃ text, e.emit root = .ok text) ↔
      ∀ node, e.Opens root node → ∀ pair ∈ node.attributes, ¬ IsRefused pair) ∧
    (∀ nodes, (∃ texts, e.emitInline nodes = .ok texts) ↔
      ∀ root ∈ nodes, ∀ node, e.Opens root node →
        ∀ pair ∈ node.attributes, ¬ IsRefused pair) ∧
    (∀ root error, e.emit root = .error error → ∃ node, e.Opens root node ∧
      ∃ pair ∈ node.attributes,
        IsRefused pair ∧ error = .tooLong (digitCount (Text.trim pair.2))) ∧
    ∀ name : Text, isEventName name.lower → ∃ prop, eventProp? name.lower = some prop := by
  refine ⟨fun root => exists_emit_iff, fun nodes => ?_,
    fun root error => refused_of_emit_eq_error, fun name => exists_eventProp?⟩
  rw [exists_emitInline_iff]
  exact forall₂_congr fun root _ => exists_emit_iff

/-- A table cell that spans a number of columns with 4301 digits. -/
def overlongCell : Node := .element 0 "td" [("colspan", List.replicate 4301 '1')] []

/-- A cell whose span has one digit too many has no template. -/
theorem overlong_span_refused : ¬ ∃ text, emit ⟨[], []⟩ overlongCell = .ok text := by
  have hopens : Opens ⟨[], []⟩ overlongCell overlongCell :=
    ⟨rfl, .self _, ⟨fun _ => rfl, fun _ => by decide, fun h => nomatch h⟩⟩
  have hrefused : IsRefused ("colspan", List.replicate 4301 '1') :=
    ⟨by decide, by decide, isOverlong_replicate (by decide)⟩
  rw [exists_emit_iff]
  exact fun hall => hall overlongCell hopens _ List.mem_cons_self hrefused

end Emitter

end Componentry.Template
