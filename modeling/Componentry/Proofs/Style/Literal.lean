import Componentry.Proofs.Json.Literal
import Componentry.Proofs.Style.Declarations

/-!
# Object literals read back

The object literal of a map is read back as the fields of the map, in their order and as texts,
whatever characters they have.

* `Json.ofPairs_eq_self`: fields whose keys are apart stay as they are;
* `Declarations.readFields_entries`: the entries are read one after the other;
* `Declarations.parse_objectLiteral`: the object literal is read back.
-/

namespace Componentry

namespace Json

theorem put_eq_concat {key : Text} {fields : Fields} (h : Key.text key ∉ fields.map Prod.fst)
    (value : Json) : put key value fields = fields ++ [(Key.text key, value)] := by
  induction fields with
  | nil => rfl
  | cons field fields ih =>
    rw [List.map_cons, List.mem_cons, not_or] at h
    simp [put, Key.same_text, Ne.symm h.1, ih h.2]

end Json

namespace Declarations

/-- The declarations as the fields of an object. -/
def fields (declarations : Declarations) : Json.Fields :=
  declarations.map fun declaration => (.text declaration.1, .string declaration.2)

/-- Properties that are declared once each are the keys of an object as they are. -/
theorem ofPairs_fields {declarations : Declarations} (h : declarations.properties.Nodup) :
    Json.ofPairs declarations.fields = declarations.fields := by
  induction declarations using List.reverseRecOn with
  | nil => rfl
  | append_singleton declarations last ih =>
    rw [properties, List.map_append, List.nodup_append] at h
    obtain ⟨hnodup, -, hdisjoint⟩ := h
    -- the key of the last field is new, so that the field is put at the end
    have hnew : Json.Key.text last.1 ∉ (fields declarations).map Prod.fst := by
      simp only [fields, List.map_map, List.mem_map, Function.comp_apply, not_exists, not_and]
      intro declaration hmem heq
      exact hdisjoint _ (List.mem_map_of_mem hmem) _ (List.mem_singleton_self _)
        (Json.Key.text.inj heq)
    rw [fields, List.map_append, Json.ofPairs, List.foldl_append, ← Json.ofPairs]
    show Json.put last.1 (.string last.2) (Json.ofPairs (fields declarations)) = _
    rw [ih hnodup, Json.put_eq_concat hnew]
    rfl

/-! ### Entries -/

theorem entry_append (declaration : Text × Text) (rest : Text) :
    entry declaration ++ rest = '"' :: (declaration.1.flatMap Json.literalChar ++ '"' :: ':' ::
      ' ' :: '"' :: (declaration.2.flatMap Json.literalChar ++ '"' :: rest)) := by
  simp [entry, Json.literal]

/-- The entry of a declaration is read up to the mark behind it, which tells whether more follow. -/
theorem readFields_entry (room fuel : Nat) (declaration : Text × Text) (rest : Text) :
    Json.readFields room (fuel + 2) (entry declaration ++ '}' :: rest) =
        .ok (fields [declaration], rest) ∧
      Json.readFields room (fuel + 2) (entry declaration ++ ',' :: ' ' :: '"' :: rest) =
        (Json.readFields room (fuel + 1) ('"' :: rest)).map fun (more, after) =>
          (fields [declaration] ++ more, after) := by
  rw [entry_append, entry_append]
  constructor
  · simp [Json.readFields, Json.readLiteral_literal, Json.skipSpace, Json.readValue, Except.map,
      bind, Except.bind, fields]
  · rw [Json.readFields]
    simp [Json.readLiteral_literal, Json.skipSpace, Json.readValue, Except.map,
      bind, Except.bind, fields]

/-- What the entries start with, if there are any. -/
theorem entries_eq_cons (first : Text × Text) (declarations : Declarations) (rest : Text) :
    ∃ more, List.intercalate [',', ' '] ((first :: declarations).map entry) ++ rest =
      '"' :: more := by
  rcases declarations with _ | ⟨second, declarations⟩
  · rw [List.map_singleton, List.intercalate_singleton, entry_append]
    exact ⟨_, rfl⟩
  · rw [List.map_cons, List.map_cons, List.intercalate_cons_cons, List.append_assoc,
      List.append_assoc, entry_append]
    exact ⟨_, rfl⟩

/-- The entries are read one after the other, up to the brace that ends them. -/
theorem readFields_entries {declarations : Declarations} (hne : declarations ≠ []) {fuel : Nat}
    (hfuel : declarations.length < fuel) (room : Nat) (after : Text) :
    Json.readFields room fuel
        (List.intercalate [',', ' '] (declarations.map entry) ++ '}' :: after) =
      .ok (declarations.fields, after) := by
  induction declarations generalizing fuel with
  | nil => exact absurd rfl hne
  | cons first declarations ih =>
    rw [List.length_cons] at hfuel
    obtain ⟨fuel, rfl⟩ : ∃ n, fuel = n + 2 := ⟨fuel - 2, by omega⟩
    rcases declarations with _ | ⟨second, declarations⟩
    · rw [List.map_singleton, List.intercalate_singleton]
      exact (readFields_entry room fuel first after).1
    · -- the entries that follow start with a quotation mark
      have hrest := ih (List.cons_ne_nil _ _) (show _ < fuel + 1 by omega)
      obtain ⟨more, hmore⟩ := entries_eq_cons second declarations ('}' :: after)
      rw [hmore] at hrest
      rw [List.map_cons, List.map_cons, List.intercalate_cons_cons, List.append_assoc,
        List.append_assoc, ← List.map_cons, hmore]
      show Json.readFields room (fuel + 2) (entry first ++ ',' :: ' ' :: '"' :: more) = _
      rw [(readFields_entry room fuel first more).2, hrest]
      rfl

/-! ### The literal -/

theorem readValue_objectLiteral {declarations : Declarations} (h : declarations.properties.Nodup)
    {fuel : Nat} (hfuel : declarations.length < fuel) (room : Nat) :
    Json.readValue (room + 1) (fuel + 1) declarations.objectLiteral =
      .ok (.object declarations.fields, []) := by
  rcases declarations with _ | ⟨first, declarations⟩
  · rfl
  · have hentries := readFields_entries (List.cons_ne_nil first declarations) hfuel room []
    obtain ⟨more, hmore⟩ := entries_eq_cons first declarations ['}']
    rw [hmore] at hentries
    rw [objectLiteral, List.append_assoc, hmore]
    simp [Json.readValue, Json.skipSpace, hentries, Except.map, ofPairs_fields h]

/-- Every entry takes some characters of the literal. -/
theorem length_le_length_entries (declarations : Declarations) :
    declarations.length ≤ (List.intercalate [',', ' '] (declarations.map entry)).length := by
  induction declarations with
  | nil => exact Nat.zero_le _
  | cons first declarations ih =>
    have hfirst : 0 < (entry first).length := by simp [entry, Json.literal]
    rcases declarations with _ | ⟨second, declarations⟩
    · rw [List.map_singleton, List.intercalate_singleton]
      exact hfirst
    · rw [List.map_cons, List.map_cons, List.intercalate_cons_cons, ← List.map_cons,
        List.length_append, List.length_append, List.length_cons]
      omega

/-- The object literal of a map is read back as the fields of the map. -/
theorem parse_objectLiteral {declarations : Declarations} (h : declarations.properties.Nodup)
    (room : Nat) : Json.parse (room + 1) declarations.objectLiteral =
      .ok (.object declarations.fields) := by
  -- the fuel is measured by characters, and there are more of them than entries
  have hfuel : declarations.length < 2 * declarations.objectLiteral.length + 1 := by
    have hentries := length_le_length_entries declarations
    rw [objectLiteral, List.length_append, List.length_append]
    omega
  have hall : Json.readAll (room + 1) declarations.objectLiteral =
      .ok (.object declarations.fields) := by
    unfold Json.readAll
    split
    next heq => exact absurd (List.cons.inj heq).1 (by decide)
    next =>
      show Json.readValue (room + 1) _ declarations.objectLiteral >>= _ = _
      rw [readValue_objectLiteral h hfuel]
      rfl
  rw [Json.parse, hall]

end Declarations

end Componentry
