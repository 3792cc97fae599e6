import Componentry.Proofs.Style.Literal
import Componentry.Proofs.Style.Property

/-!
# Styles that continue others

A style attribute is put together from pieces, and its map is put together from theirs: what follows
a semicolon is written over what precedes it, and a piece that declares nothing leaves no trace. The
map keeps the names of custom properties, has no hyphens before small letters in the names of the
others, and comes back from its object literal as it is.
-/

namespace Componentry.Declarations

/-- A custom property that a style declares is in its map under its own name. -/
theorem mem_properties_parse_of_isCustom {style segment key value : Text}
    (hsegment : segment ∈ Text.splitOn ';' style) (hdeclares : Declares segment key value)
    (hcustom : IsCustom key) : key ∈ (parse style).properties := by
  rw [parse_eq_ofPairs, mem_properties_ofPairs_iff, List.mem_map]
  refine ⟨(key, value), mem_declared_iff.2 ⟨segment, hsegment, key, value, hdeclares, ?_⟩, rfl⟩
  rw [propertyName_of_isCustom hcustom]

/-- Every property of the map of a style is declared by a segment. -/
theorem exists_declares_of_mem_properties_parse {style property : Text}
    (h : property ∈ (parse style).properties) :
    ∃ segment ∈ Text.splitOn ';' style, ∃ key value,
      Declares segment key value ∧ property = propertyName key := by
  rw [parse_eq_ofPairs, mem_properties_ofPairs_iff, List.mem_map] at h
  obtain ⟨declaration, hdeclaration, rfl⟩ := h
  obtain ⟨segment, hsegment, key, value, hdeclares, rfl⟩ := mem_declared_iff.1 hdeclaration
  exact ⟨segment, hsegment, key, value, hdeclares, rfl⟩

/-- Styles compose, and their maps are read back from their object literals. What follows a
semicolon is written over what precedes it, and a segment that declares nothing changes nothing. The
names in the map that start with two hyphens are those of the custom properties that are declared,
and no other name has a hyphen before a small letter. -/
theorem parse_composes (first second : Text) :
    parse (first ++ ';' :: second) = updated (parse first) (parse second) ∧
      (∀ segment, ';' ∉ segment → (∀ key value, ¬ Declares segment key value) →
        parse segment = [] ∧
          parse (first ++ ';' :: (segment ++ ';' :: second)) = parse (first ++ ';' :: second)) ∧
      (∀ segment ∈ Text.splitOn ';' first, ∀ key value, Declares segment key value →
        IsCustom key → key ∈ (parse first).properties) ∧
      (∀ property ∈ (parse first).properties,
        (IsCustom property → ∃ segment ∈ Text.splitOn ';' first, ∃ value,
          Declares segment property value) ∧
        (¬ IsCustom property → ∀ c : Char, c.isLower → ¬ ['-', c] <:+: property)) ∧
      ∀ room, Json.parse (room + 1) (parse first).objectLiteral =
        .ok (.object (parse first).fields) := by
  refine ⟨parse_append first second, fun segment hsegment hnone => ?_,
    fun segment hsegment key value => mem_properties_parse_of_isCustom hsegment,
    fun property hproperty => ?_, parse_objectLiteral (nodup_properties_parse first)⟩
  · -- nothing is written over by what declares nothing
    have hempty := parse_eq_nil_of_not_declares hsegment hnone
    rw [parse_append, parse_append, parse_append, hempty, nil_updated]
    exact ⟨rfl, rfl⟩
  · obtain ⟨segment, hsegment, key, value, hdeclares, rfl⟩ :=
      exists_declares_of_mem_properties_parse hproperty
    rw [isCustom_propertyName_iff]
    refine ⟨fun hcustom => ⟨segment, hsegment, value, ?_⟩,
      fun hother c => not_hyphen_small_infix_propertyName hother⟩
    rwa [propertyName_of_isCustom hcustom]

end Componentry.Declarations
