import Componentry.Configuration.Update
import Componentry.Proofs.Text
import Mathlib.Data.List.Basic

/-!
# Changed settings

A change of the configuration stores one value. What a path leads to after it is that value, if the
path is that of the change, and a value that was there before is there still unless the path of the
change leads to it or to a section around it.

* `lookup_modify_self`, `lookup_modify_of_settled`: values after an update;
* `lookup_set_self`, `lookup_set_of_settled`: settings after a change.
-/

namespace Componentry.Configuration

variable {ε : Type} {replace : Json → Except ε Json} {key next : Text} {rest other : List Text}
  {fields changed : Json.Fields}

/-- A value that is there and is no section. -/
def IsSettled : Json → Prop
  | .null => False
  | .object _ => False
  | _ => True

/-- A value that is there is the one that a path gives. -/
theorem get_of_isSettled {config : Json} {path : Text}
    (h : IsSettled (lookup (keys path) config)) (fallback : Json) :
    get config path fallback = lookup (keys path) config := by
  rw [get, get?]
  cases hvalue : lookup (keys path) config with
  | null => simp [hvalue, IsSettled] at h
  | _ => rfl

theorem lookup_null (keys : List Text) : lookup keys .null = .null := by
  cases keys <;> rfl

theorem lookup_put_self (key : Text) (keys : List Text) (value : Json) (fields : Json.Fields) :
    lookup (key :: keys) (.object (Json.put key value fields)) = lookup keys value := by
  simp [lookup]

theorem lookup_put_of_ne {key first : Text} (h : first ≠ key) (keys : List Text) (value : Json)
    (fields : Json.Fields) :
    lookup (first :: keys) (.object (Json.put key value fields)) =
      lookup (first :: keys) (.object fields) := by
  have hne : Json.Key.text first ≠ .text key := by simpa using h
  simp [lookup, Json.find?_put_of_ne hne]

/-! ### Updates -/

theorem modify_singleton_eq_ok :
    modify replace [key] fields = .ok changed ↔
      ∃ value, replace ((Json.find? key fields).getD .null) = .ok value ∧
        changed = Json.put key value fields := by
  rw [modify]
  cases replace ((Json.find? key fields).getD .null) <;> simp [eq_comm]

/-- An update below a key is one of the section there, which is made if there is nothing. -/
theorem exists_section_of_modify (h : modify replace (key :: next :: rest) fields = .ok changed) :
    ∃ section_ inner,
      (Json.find? key fields = some (.object section_) ∨
        Json.find? key fields = none ∧ section_ = []) ∧
      modify replace (next :: rest) section_ = .ok inner ∧
      changed = Json.put key (.object inner) fields := by
  rw [modify] at h
  · split at h
    next hnone =>
      cases hinner : modify replace (next :: rest) [] with
      | error error => simp [hinner, Except.map] at h
      | ok inner =>
        rw [hinner] at h
        exact ⟨[], inner, .inr ⟨hnone, rfl⟩, hinner, (Except.ok.inj h).symm⟩
    next section_ hsome =>
      cases hinner : modify replace (next :: rest) section_ with
      | error error => simp [hinner, Except.map] at h
      | ok inner =>
        rw [hinner] at h
        exact ⟨section_, inner, .inl hsome, hinner, (Except.ok.inj h).symm⟩
    next => cases h
  · simp

/-- An update changes nothing under another first key. -/
theorem lookup_modify_of_ne {first : Text} (h : modify replace (key :: rest) fields = .ok changed)
    (hfirst : first ≠ key) (other : List Text) :
    lookup (first :: other) (.object changed) = lookup (first :: other) (.object fields) := by
  cases rest with
  | nil =>
    obtain ⟨value, -, rfl⟩ := modify_singleton_eq_ok.1 h
    exact lookup_put_of_ne hfirst other value fields
  | cons next rest =>
    obtain ⟨section_, inner, -, -, rfl⟩ := exists_section_of_modify h
    exact lookup_put_of_ne hfirst other (.object inner) fields

/-- An update stores what is made from the old value. -/
theorem lookup_modify_self {keys : List Text} (hne : keys ≠ [])
    (h : modify replace keys fields = .ok changed) :
    replace (lookup keys (.object fields)) = .ok (lookup keys (.object changed)) := by
  induction keys generalizing fields changed with
  | nil => exact absurd rfl hne
  | cons key rest ih =>
    cases rest with
    | nil =>
      obtain ⟨value, hvalue, rfl⟩ := modify_singleton_eq_ok.1 h
      rw [lookup_put_self]
      exact hvalue
    | cons next rest =>
      obtain ⟨section_, inner, hsection, hinner, rfl⟩ := exists_section_of_modify h
      rw [lookup_put_self, ← ih (List.cons_ne_nil _ _) hinner]
      rcases hsection with hsome | ⟨hnone, rfl⟩
      · simp [lookup, hsome]
      · simp [lookup, hnone, Json.find?, lookup_null]

/-- A value stays where it is unless an update goes to it or to a section around it. -/
theorem lookup_modify_of_settled {keys : List Text} (h : modify replace keys fields = .ok changed)
    (hleads : ¬ keys <+: other) (hsettled : IsSettled (lookup other (.object fields))) :
    lookup other (.object changed) = lookup other (.object fields) := by
  induction keys generalizing fields changed other with
  | nil => exact absurd List.nil_prefix hleads
  | cons key rest ih =>
    cases other with
    | nil => exact hsettled.elim
    | cons first other =>
      by_cases hfirst : first = key
      · subst hfirst
        rw [List.cons_prefix_cons, not_and] at hleads
        cases rest with
        | nil => exact absurd List.nil_prefix (hleads rfl)
        | cons next rest =>
          obtain ⟨section_, inner, hsection, hinner, rfl⟩ := exists_section_of_modify h
          -- a section that has just been made held nothing that was settled
          rcases hsection with hsome | ⟨hnone, rfl⟩
          · rw [lookup_put_self]
            simp only [lookup, hsome, Option.getD_some] at hsettled ⊢
            exact ih hinner (hleads rfl) hsettled
          · simp [lookup, hnone, lookup_null, IsSettled] at hsettled
      · exact lookup_modify_of_ne h hfirst other

/-! ### Changes -/

section Set

variable {config after value : Json} {path : Text} {warnings : List Log.Entry}

theorem exists_modify_of_set (h : set config path value = .ok (.stored after warnings)) :
    ∃ fields changed, config = .object fields ∧ after = .object changed ∧
      modify (stored value) (keys path) fields = .ok changed := by
  cases config with
  | object fields =>
    rw [set] at h
    split at h
    next changed hchanged =>
      cases h
      exact ⟨fields, changed, rfl, rfl, hchanged⟩
    next => cases h
    next => cases h
  | _ => cases h

/-- A change stores the value in the form that fits the old one. -/
theorem lookup_set_self (h : set config path value = .ok (.stored after warnings)) :
    stored value (lookup (keys path) config) = .ok (lookup (keys path) after) := by
  obtain ⟨fields, changed, rfl, rfl, hmodify⟩ := exists_modify_of_set h
  exact lookup_modify_self (Text.splitOn_ne_nil '.' path) hmodify

/-- A setting stays as it is unless a change goes to it or to a section around it. -/
theorem lookup_set_of_settled {other : List Text}
    (h : set config path value = .ok (.stored after warnings)) (hleads : ¬ keys path <+: other)
    (hsettled : IsSettled (lookup other config)) : lookup other after = lookup other config := by
  obtain ⟨fields, changed, rfl, rfl, hmodify⟩ := exists_modify_of_set h
  exact lookup_modify_of_settled hmodify hleads hsettled

end Set

end Componentry.Configuration
