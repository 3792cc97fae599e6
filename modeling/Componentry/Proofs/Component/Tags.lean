import Componentry.Proofs.Component.Coverage

/-!
# Tags

The tags that a component writes are those of elements below the body of its document, each in the
spelling that its templates use. An element has the name that its start tag gave it: that starts
with a letter, but it may have characters that no name in a template can have. Spelling neither
takes such characters away nor adds any.

* `Template.isPlainTag_tagName_iff`: spelling a tag changes nothing about its characters;
* `Layout.exists_element_of_mem_tags`: which tags a component writes;
* `Conversion.writes_tags_of_elements`: what a conversion writes for tags.
-/

namespace Componentry

open Node Template

namespace Template

/-- A tag that a template can have: a letter, and then letters, digits, underscores, hyphens, points
and colons. -/
def IsPlainTag (tag : Text) : Prop := (∃ c ∈ tag.head?, c.isAlpha) ∧ ∀ c ∈ tag, isPropChar c

instance (tag : Text) : Decidable (IsPlainTag tag) :=
  decidable_of_iff (tag.head?.any Char.isAlpha ∧ tag.all isPropChar) <| by
    rw [IsPlainTag, List.all_eq_true, Option.any_eq_true]
    rfl

/-- The tags that are spelled with capitals are plain with them and without. -/
theorem isPlainTag_tagName_iff {tag : Text} :
    IsPlainTag (tagName (some tag)) ↔ IsPlainTag tag := by
  have hcased : ∀ row ∈ casedTags, IsPlainTag row.1 ∧ IsPlainTag row.2 := by decide +kernel
  rw [tagName]
  cases hlookup : casedTags.lookup tag with
  | none => exact Iff.rfl
  | some cased =>
    obtain ⟨htag, hspelled⟩ := hcased _ (List.mem_of_lookup_eq_some hlookup)
    exact iff_of_true hspelled htag

/-- The tag that a piece writes for an element: an opening tag, which is perhaps closed at once, or
a closing one. -/
def Piece.tag? : Piece → Option (Option Text)
  | .opening node => some node.tag?
  | .closing tag? => some tag?
  | _ => none

end Template

namespace Layout

/-- The tags that a component writes for elements. -/
def tags (l : Layout) : List (Option Text) := l.pieces.filterMap Piece.tag?

/-- A piece of a component is the use of a unit, or it is that of a node below the body. -/
theorem exists_own_of_mem_pieces {name : Text} {d : Document} (hd : d.WellFormed) {piece : Piece}
    (h : piece ∈ (ofDocument name d).pieces) :
    (∃ uid unit, piece = .reference uid unit) ∨
      ∃ root, ∃ node ∈ d.body.descendants, (ofDocument name d).emitter.Own root node piece := by
  rcases List.mem_append.1 h with h | h
  · -- the root of a unit lies below the body
    obtain ⟨claim, hclaim, h⟩ := List.mem_flatMap.1 h
    obtain ⟨node, hnode, hown⟩ := Emitter.exists_own_of_mem_pieces h
    have hroot := mem_descendants_of_mem_decompose hd.body_distinct hclaim
    refine .inr ⟨claim.root.uid, node, ?_, hown⟩
    rcases mem_subtree_iff.1 hnode with rfl | hnode
    · exact hroot
    · exact descendants_subset_of_mem (mem_subtree_iff.2 (.inr hroot)) hnode
  · obtain ⟨pieces, hpieces, h⟩ := List.mem_flatten.1 h
    obtain ⟨child, hchild, rfl⟩ := List.mem_map.1 hpieces
    rw [slot] at h
    split at h
    · exact .inl ⟨_, _, List.mem_singleton.1 h⟩
    · split at h
      · cases h
      · obtain ⟨node, hnode, hown⟩ := Emitter.exists_own_of_mem_pieces h
        exact .inr ⟨child.uid, node, mem_descendants_of_child hchild hnode, hown⟩

/-- The tags that a component writes are those of elements below the body. -/
theorem exists_element_of_mem_tags {name : Text} {d : Document} (hd : d.WellFormed)
    {tag? : Option Text} (h : tag? ∈ (ofDocument name d).tags) :
    ∃ tag, tag? = some tag ∧
      ∃ node ∈ d.body.descendants, node.kind = .element ∧ node.tag? = some tag := by
  obtain ⟨piece, hpiece, htag⟩ := List.mem_filterMap.1 h
  have helement : ∃ node ∈ d.body.descendants, node.kind = .element ∧ node.tag? = tag? := by
    rcases exists_own_of_mem_pieces hd hpiece with ⟨uid, unit, rfl⟩ | ⟨root, node, hnode, hown⟩
    · cases htag
    · -- only tags of the element itself have one
      cases hown with
      | opening hkind => exact ⟨node, hnode, hkind, Option.some.inj htag⟩
      | closing hkind => exact ⟨node, hnode, hkind, Option.some.inj htag⟩
      | _ => cases htag
  obtain ⟨node, hnode, hkind, rfl⟩ := helement
  obtain ⟨tag, htag⟩ := (hd.tidy_of_descendant hnode).tag_of_element hkind
  exact ⟨tag, htag, node, hnode, hkind, htag⟩

end Layout

namespace Conversion

/-- Every tag that a conversion writes for an element has the name of an element below the body of
the document. The name starts with a letter and has no character that ends the name of a start tag;
it is written as a name that a template can have if it is one itself, and only then. -/
theorem writes_tags_of_elements {settings : Settings} {markup artifact override : Text}
    {theme : Theme} {c : Conversion}
    (h : convert settings markup artifact override theme = .ok c) :
    ∃ document, Document.parse settings.slash markup = .ok document ∧
      c.Follows (Layout.ofDocument c.name document) ∧
      ∀ tag? ∈ (Layout.ofDocument c.name document).tags, ∃ tag, tag? = some tag ∧
        (∃ node ∈ document.body.descendants, node.kind = .element ∧ node.tag? = some tag) ∧
        Markup.IsTagName tag ∧ (IsPlainTag (tagName tag?) ↔ IsPlainTag tag) := by
  obtain ⟨document, hparse, hfollows⟩ := follows_of_convert h
  have hd := Document.wellFormed_of_parse hparse
  refine ⟨document, hparse, hfollows, fun tag? htag => ?_⟩
  obtain ⟨tag, rfl, node, hnode, hkind, hnodeTag⟩ := Layout.exists_element_of_mem_tags hd htag
  exact ⟨tag, rfl, ⟨node, hnode, hkind, hnodeTag⟩, hd.named_of_descendant hnode tag hnodeTag,
    isPlainTag_tagName_iff⟩

/-- A clipping path, whose tag has a capital in a template. -/
theorem writes_tags_of_elements_clipping :
    ∃ c document,
      convert Settings.default "<clippath>a</clippath>".toList [] [] Theme.default = .ok c ∧
      Document.parse .closes "<clippath>a</clippath>".toList = .ok document ∧
      ∀ tag? ∈ (Layout.ofDocument c.name document).tags, ∃ tag, tag? = some tag ∧
        Markup.IsTagName tag ∧ (IsPlainTag (tagName tag?) ↔ IsPlainTag tag) := by
  have hsome : (convert Settings.default "<clippath>a</clippath>".toList [] []
      Theme.default).toOption.isSome := by decide +kernel
  obtain ⟨c, hok⟩ := Except.exists_ok_of_isSome hsome
  obtain ⟨document, hparse, -, htags⟩ := writes_tags_of_elements hok
  refine ⟨c, document, hok, hparse, fun tag? htag => ?_⟩
  obtain ⟨tag, heq, -, hname, hplain⟩ := htags tag? htag
  exact ⟨tag, heq, hname, hplain⟩

/-- An element whose name has a quotation mark in it is written with the mark in its tags. -/
theorem quoted_tag_written :
    ∃ c document,
      convert Settings.default "<a\"b>x</a\"b>".toList [] [] Theme.default = .ok c ∧
      Document.parse .closes "<a\"b>x</a\"b>".toList = .ok document ∧
      c.units.map ComponentUnit.body = ["<a\"b>x</a\"b>".toList] ∧
      ∃ tag? ∈ (Layout.ofDocument c.name document).tags, ¬ IsPlainTag (tagName tag?) := by
  have hconvert : (convert Settings.default "<a\"b>x</a\"b>".toList [] []
      Theme.default).toOption.map (fun c => (c.name, c.units.map ComponentUnit.body)) =
        some (Settings.standardName, ["<a\"b>x</a\"b>".toList]) := by decide +kernel
  have htags : (Document.parse .closes "<a\"b>x</a\"b>".toList).toOption.map
      (fun document => (Layout.ofDocument Settings.standardName document).tags) =
        some [some "a\"b".toList, some "a\"b".toList] := by decide +kernel
  cases hok : convert Settings.default "<a\"b>x</a\"b>".toList [] [] Theme.default with
  | error failure =>
    rw [hok] at hconvert
    cases hconvert
  | ok c =>
    rw [hok] at hconvert
    obtain ⟨hname, hunits⟩ := Prod.mk.inj (Option.some.inj hconvert)
    cases hparse : Document.parse .closes "<a\"b>x</a\"b>".toList with
    | error rejection =>
      rw [hparse] at htags
      cases htags
    | ok document =>
      rw [hparse] at htags
      have htags : (Layout.ofDocument Settings.standardName document).tags =
          [some "a\"b".toList, some "a\"b".toList] := Option.some.inj htags
      refine ⟨c, document, rfl, rfl, hunits, some "a\"b".toList, ?_, by decide⟩
      rw [hname, htags]
      exact List.mem_cons_self

end Conversion

end Componentry
