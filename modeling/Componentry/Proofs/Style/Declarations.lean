import Componentry.Proofs.Text
import Componentry.Style.Declarations
import Mathlib.Data.List.Induction

/-!
# Declarations of a style

Declarations are a map in the order in which its properties were first declared. Two of them are the
same if they have the same properties in the same order and the same values, which is how the laws
of this file are proved: every operation has one lemma for its properties and one for its values.

* `Declarations.updated`: declarations that others are written over;
* `Declarations.parse_append`: a style that continues another one writes over it;
* `Declarations.lookup_parse`: the value of a property is the one that was declared last;
* `Declarations.declaration?_eq_some_iff`: what a segment declares.
-/

namespace Componentry.Declarations

/-! ### Properties and values -/

/-- The declared properties, in the order in which they were first declared. -/
def properties (declarations : Declarations) : List Text := declarations.map Prod.fst

@[simp]
theorem properties_nil : properties [] = [] := rfl

@[simp]
theorem properties_cons (declaration : Text × Text) (declarations : Declarations) :
    properties (declaration :: declarations) = declaration.1 :: declarations.properties := rfl

theorem lookup_cons (declaration : Text × Text) (declarations : Declarations) (property : Text) :
    List.lookup property (declaration :: declarations) =
      if property = declaration.1 then some declaration.2 else declarations.lookup property := by
  rw [List.lookup_cons, beq_eq_decide]
  by_cases h : property = declaration.1 <;> simp [h]

theorem lookup_eq_none_iff {declarations : Declarations} {property : Text} :
    declarations.lookup property = none ↔ property ∉ declarations.properties := by
  induction declarations with
  | nil => simp
  | cons declaration declarations ih =>
    by_cases h : property = declaration.1 <;> simp [lookup_cons, h, ih]

/-- Declarations are told apart by their properties and values. -/
theorem ext_lookup {first second : Declarations} (hnodup : first.properties.Nodup)
    (hproperties : first.properties = second.properties)
    (hlookup : ∀ property, first.lookup property = second.lookup property) : first = second := by
  -- the first declarations agree on their value, and what follows agrees on the other properties
  induction first generalizing second with
  | nil => exact (List.map_eq_nil_iff.1 hproperties.symm).symm
  | cons declaration first ih =>
    obtain ⟨property, value⟩ := declaration
    obtain ⟨⟨_, other⟩, second, rfl⟩ :=
      List.exists_cons_of_ne_nil (fun hnil => by simp [hnil] at hproperties : second ≠ [])
    obtain ⟨rfl, htail⟩ := List.cons.inj hproperties
    have hvalue : value = other := by simpa [lookup_cons] using hlookup property
    rw [properties_cons, List.nodup_cons] at hnodup
    rw [hvalue, ih hnodup.2 htail fun p => ?_]
    by_cases hp : p = property
    · -- the property of the first declaration is declared once only
      have hfirst := lookup_eq_none_iff.2 hnodup.1
      have hsecond : property ∉ properties second := by
        show property ∉ List.map Prod.fst second
        rw [← htail]
        exact hnodup.1
      rw [hp, hfirst, lookup_eq_none_iff.2 hsecond]
    · simpa [lookup_cons, hp] using hlookup p

/-! ### One declaration more -/

theorem lookup_put (property value other : Text) (declarations : Declarations) :
    (put property value declarations).lookup other =
      if other = property then some value else declarations.lookup other := by
  induction declarations with
  | nil => exact lookup_cons _ _ _
  | cons declaration declarations ih =>
    unfold put
    split
    next hplace => by_cases h : other = property <;> simp [lookup_cons, hplace, h]
    next hother =>
      by_cases h : other = declaration.1
      · simp [lookup_cons, h, hother]
      · simp [lookup_cons, h, ih]

/-- A property is added at the end, unless it is declared. -/
theorem properties_put (property value : Text) (declarations : Declarations) :
    (put property value declarations).properties =
      if property ∈ declarations.properties then declarations.properties
      else declarations.properties ++ [property] := by
  induction declarations with
  | nil => rfl
  | cons declaration declarations ih =>
    unfold put
    split
    next hplace => simp [hplace]
    next hother =>
      -- whether the property is new is decided further on
      rw [properties_cons, ih, properties_cons]
      by_cases h : property ∈ properties declarations
      · simp [h]
      · simp [h, Ne.symm hother]

theorem nodup_properties_put {declarations : Declarations} (h : declarations.properties.Nodup)
    (property value : Text) : (put property value declarations).properties.Nodup := by
  rw [properties_put]
  split
  · exact h
  next hnot =>
    -- only a property that is not declared is added
    rw [(List.perm_append_singleton _ _).nodup_iff]
    exact List.nodup_cons.2 ⟨hnot, h⟩

theorem mem_of_mem_put {property value : Text} {declaration : Text × Text}
    {declarations : Declarations} (h : declaration ∈ put property value declarations) :
    declaration = (property, value) ∨ declaration ∈ declarations := by
  induction declarations with
  | nil => exact .inl (List.mem_singleton.1 h)
  | cons first declarations ih =>
    unfold put at h
    split at h
    next hplace =>
      -- the value is replaced where the property stands
      rcases List.mem_cons.1 h with rfl | h
      · exact .inl (congrArg (·, value) hplace)
      · exact .inr (List.mem_cons_of_mem _ h)
    next =>
      rcases List.mem_cons.1 h with rfl | h
      · exact .inr List.mem_cons_self
      · exact (ih h).imp_right (List.mem_cons_of_mem _)

/-! ### Many declarations more -/

/-- Declarations that `more` are written over. What is declared keeps its place, and takes the value
that it has in `more`, if it has one there; the other properties of `more` follow in their order. -/
def updated (declarations more : Declarations) : Declarations :=
  declarations.map (fun declaration =>
    (declaration.1, (more.lookup declaration.1).getD declaration.2)) ++
    more.filter fun declaration => declaration.1 ∉ declarations.properties

theorem properties_updated (declarations more : Declarations) :
    (updated declarations more).properties =
      declarations.properties ++ more.properties.filter (· ∉ declarations.properties) := by
  simp [updated, properties, List.filter_map, Function.comp_def]

theorem lookup_map (f : Text → Text → Text) (declarations : Declarations) (property : Text) :
    (declarations.map fun declaration => (declaration.1, f declaration.1 declaration.2)).lookup
      property = (declarations.lookup property).map (f property) := by
  induction declarations with
  | nil => rfl
  | cons declaration declarations ih =>
    by_cases h : property = declaration.1 <;> simp [lookup_cons, h, ih]

theorem lookup_filter (keep : Text → Bool) (declarations : Declarations) (property : Text) :
    (declarations.filter fun declaration => keep declaration.1).lookup property =
      if keep property then declarations.lookup property else none := by
  induction declarations with
  | nil => simp
  | cons declaration declarations ih =>
    rw [List.filter_cons]
    split
    next hkeep => by_cases h : property = declaration.1 <;> simp [lookup_cons, h, hkeep, ih]
    next hskip =>
      -- what is left out is not found on the right either
      rw [ih, lookup_cons]
      by_cases h : property = declaration.1 <;> simp [h, hskip]

/-- The later value of a property counts. -/
theorem lookup_updated (declarations more : Declarations) (property : Text) :
    (updated declarations more).lookup property =
      (more.lookup property).or (declarations.lookup property) := by
  rw [updated, List.lookup_append,
    lookup_map fun property value => (more.lookup property).getD value,
    lookup_filter fun property => property ∉ declarations.properties]
  -- the second half of the map has the properties that are not in the first
  cases hown : declarations.lookup property with
  | none => simp [lookup_eq_none_iff.1 hown]
  | some value => cases more.lookup property <;> rfl

theorem nodup_properties_updated {declarations more : Declarations}
    (h : declarations.properties.Nodup) (hmore : more.properties.Nodup) :
    (updated declarations more).properties.Nodup := by
  rw [properties_updated, List.nodup_append]
  refine ⟨h, hmore.filter _, ?_⟩
  rintro p hp q hq rfl
  simp [hp] at hq

@[simp]
theorem updated_nil (declarations : Declarations) : updated declarations [] = declarations := by
  simp [updated]

@[simp]
theorem nil_updated (more : Declarations) : updated [] more = more := by
  simp [updated]

/-- One declaration more is written over what was written over before. -/
theorem put_updated {declarations more : Declarations} (h : declarations.properties.Nodup)
    (hmore : more.properties.Nodup) (property value : Text) :
    put property value (updated declarations more) =
      updated declarations (put property value more) := by
  apply ext_lookup
  · exact nodup_properties_put (nodup_properties_updated h hmore) property value
  · simp only [properties_put, properties_updated]
    by_cases hmem : property ∈ declarations.properties
    · -- the property keeps its place, wherever else it is declared
      by_cases hlater : property ∈ more.properties <;> simp [hmem, hlater]
    · by_cases hlater : property ∈ more.properties <;> simp [hmem, hlater]
  · -- on both sides the last value counts
    intro other
    rw [lookup_put, lookup_updated, lookup_updated, lookup_put]
    split <;> rfl

/-- Declarations from pairs in which properties may be repeated. -/
def ofPairs (pairs : List (Text × Text)) : Declarations :=
  pairs.foldl (fun declarations (property, value) => put property value declarations) []

theorem ofPairs_concat (pairs : List (Text × Text)) (pair : Text × Text) :
    ofPairs (pairs ++ [pair]) = put pair.1 pair.2 (ofPairs pairs) := by
  rw [ofPairs, List.foldl_append]
  rfl

theorem nodup_properties_ofPairs (pairs : List (Text × Text)) :
    (ofPairs pairs).properties.Nodup := by
  induction pairs using List.reverseRecOn with
  | nil => exact List.nodup_nil
  | append_singleton pairs pair ih =>
    rw [ofPairs_concat]
    exact nodup_properties_put ih _ _

/-- Pairs that follow others are written over them. -/
theorem ofPairs_append (first second : List (Text × Text)) :
    ofPairs (first ++ second) = updated (ofPairs first) (ofPairs second) := by
  -- the pairs of the second list come one by one, with the whole first list before them
  induction second using List.reverseRecOn with
  | nil => simp [ofPairs]
  | append_singleton second pair ih =>
    rw [← List.append_assoc, ofPairs_concat, ih, ofPairs_concat]
    exact put_updated (nodup_properties_ofPairs _) (nodup_properties_ofPairs _) _ _

theorem mem_of_mem_ofPairs {pairs : List (Text × Text)} {pair : Text × Text}
    (h : pair ∈ ofPairs pairs) : pair ∈ pairs := by
  induction pairs using List.reverseRecOn with
  | nil => cases h
  | append_singleton pairs last ih =>
    rw [ofPairs_concat] at h
    rw [List.mem_append, List.mem_singleton]
    exact (mem_of_mem_put h).symm.imp_left ih

theorem mem_properties_ofPairs_iff {pairs : List (Text × Text)} {property : Text} :
    property ∈ (ofPairs pairs).properties ↔ property ∈ pairs.map Prod.fst := by
  induction pairs using List.reverseRecOn with
  | nil => rfl
  | append_singleton pairs last ih =>
    rw [ofPairs_concat, properties_put, List.map_append, List.mem_append, ← ih]
    split
    next hmem =>
      refine ⟨.inl, fun h => h.elim id fun h => ?_⟩
      rwa [List.mem_singleton.1 h]
    next => exact List.mem_append

/-- The value of a property is that of its last pair. -/
theorem lookup_ofPairs (pairs : List (Text × Text)) (property : Text) :
    (ofPairs pairs).lookup property =
      ((pairs.filter (·.1 = property)).getLast?).map Prod.snd := by
  induction pairs using List.reverseRecOn with
  | nil => rfl
  | append_singleton pairs pair ih =>
    rw [ofPairs_concat, lookup_put, ih]
    by_cases h : property = pair.1
    · simp [h]
    · simp [h, Ne.symm h]

/-! ### Segments -/

/-- What the segments of a style declare, one after the other. -/
def declared (style : Text) : List (Text × Text) :=
  (Text.splitOn ';' style).filterMap declaration?

theorem parse_eq_ofPairs (style : Text) : parse style = ofPairs (declared style) := rfl

theorem nodup_properties_parse (style : Text) : (parse style).properties.Nodup :=
  nodup_properties_ofPairs _

theorem declared_append (first second : Text) :
    declared (first ++ ';' :: second) = declared first ++ declared second := by
  rw [declared, Text.splitOn_append, List.filterMap_append]
  rfl

/-- A style that continues another one after a semicolon is written over it. -/
theorem parse_append (first second : Text) :
    parse (first ++ ';' :: second) = updated (parse first) (parse second) := by
  rw [parse_eq_ofPairs, declared_append, ofPairs_append]
  rfl

/-- A segment declares a value for a property: they stand on the two sides of its first colon, and
neither is blank. -/
def Declares (segment key value : Text) : Prop :=
  ∃ before after, segment = before ++ ':' :: after ∧ ':' ∉ before ∧
    key = Text.trim before ∧ value = Text.trim after ∧ key ≠ [] ∧ value ≠ []

theorem declaration?_eq_some_iff {segment : Text} {declaration : Text × Text} :
    declaration? segment = some declaration ↔
      ∃ key value, Declares segment key value ∧ declaration = (propertyName key, value) := by
  unfold declaration?
  constructor
  · intro h
    split at h
    · cases h
    next before after hcut =>
      obtain ⟨hsegment, hbefore⟩ := Text.cut?_eq_some_iff.1 hcut
      dsimp only at h
      split at h
      · cases h
      next hblank =>
        rw [Bool.or_eq_true, not_or, List.isEmpty_iff, List.isEmpty_iff] at hblank
        exact ⟨_, _, ⟨before, after, hsegment, hbefore, rfl, rfl, hblank⟩,
          (Option.some.inj h).symm⟩
  · rintro ⟨key, value, ⟨before, after, hsegment, hbefore, rfl, rfl, hkey, hvalue⟩, rfl⟩
    rw [Text.cut?_eq_some_iff.2 ⟨hsegment, hbefore⟩]
    simp [hkey, hvalue]

/-- A segment that declares nothing leaves no trace, wherever it stands. -/
theorem parse_eq_nil_of_not_declares {segment : Text} (h : ';' ∉ segment)
    (hnone : ∀ key value, ¬ Declares segment key value) : parse segment = [] := by
  have hdeclaration : declaration? segment = none := by
    rw [Option.eq_none_iff_forall_ne_some]
    intro declaration heq
    obtain ⟨key, value, hdeclares, -⟩ := declaration?_eq_some_iff.1 heq
    exact hnone key value hdeclares
  rw [parse_eq_ofPairs, declared, Text.splitOn_eq_singleton h]
  simp [hdeclaration, ofPairs]

theorem mem_declared_iff {style : Text} {declaration : Text × Text} :
    declaration ∈ declared style ↔ ∃ segment ∈ Text.splitOn ';' style, ∃ key value,
      Declares segment key value ∧ declaration = (propertyName key, value) := by
  simp only [declared, List.mem_filterMap, declaration?_eq_some_iff]

end Componentry.Declarations
