import Componentry.Proofs.Naming
import Componentry.State.Inference

/-!
# Inferred fields

Each control has one field, and each field a key of its own, whatever the controls are called. A
step keeps this up, since a new key is none of those that are taken and every key in use is taken:

* `Inference.Sound`: the invariant of inferring;
* `sound_inferFields`: no two of the inferred fields have the same key or the same control;
* `mem_uids_inferFields`: which controls have fields;
* `isIdentifier_key`: the keys are identifiers.
-/

namespace Componentry

namespace Field

theorem mem_of_mem_put {field f : Field} {fields : List Field} (h : f ∈ put field fields) :
    f = field ∨ f ∈ fields := by
  induction fields with
  | nil => exact .inl (List.mem_singleton.1 h)
  | cons first fields ih =>
    rw [put] at h
    split at h
    · exact (List.mem_cons.1 h).imp_right (List.mem_cons_of_mem _)
    · rcases List.mem_cons.1 h with rfl | h
      · exact .inr List.mem_cons_self
      · exact (ih h).imp_right (List.mem_cons_of_mem _)

theorem nodup_keys_put {field : Field} {fields : List Field} (h : (fields.map key).Nodup)
    (hnew : ∀ f ∈ fields, f.key ≠ field.key) : ((put field fields).map key).Nodup := by
  induction fields with
  | nil => exact List.nodup_singleton _
  | cons first fields ih =>
    rw [List.map_cons, List.nodup_cons] at h
    rw [List.forall_mem_cons] at hnew
    rw [put]
    split
    · rw [List.map_cons, List.nodup_cons]
      -- the new field takes the place of an old one, whose key is gone
      refine ⟨fun hmem => ?_, h.2⟩
      obtain ⟨f, hf, hkey⟩ := List.mem_map.1 hmem
      exact hnew.2 f hf hkey
    · rw [List.map_cons, List.nodup_cons]
      refine ⟨fun hmem => ?_, ih h.2 hnew.2⟩
      obtain ⟨f, hf, hkey⟩ := List.mem_map.1 hmem
      rcases mem_of_mem_put hf with rfl | hf
      · exact hnew.1 hkey.symm
      · exact h.1 (hkey ▸ List.mem_map_of_mem hf)

theorem nodup_uids_put {field : Field} {fields : List Field} (h : (fields.map uid).Nodup) :
    ((put field fields).map uid).Nodup := by
  induction fields with
  | nil => exact List.nodup_singleton _
  | cons first fields ih =>
    rw [List.map_cons, List.nodup_cons] at h
    rw [put]
    split
    · next huid =>
      -- the new field has the control of the old one
      rw [List.map_cons, List.nodup_cons, ← huid]
      exact h
    · next huid =>
      rw [List.map_cons, List.nodup_cons]
      refine ⟨fun hmem => ?_, ih h.2⟩
      obtain ⟨f, hf, heq⟩ := List.mem_map.1 hmem
      rcases mem_of_mem_put hf with rfl | hf
      · exact huid heq.symm
      · exact h.1 (heq ▸ List.mem_map_of_mem hf)

theorem mem_uids_put {field : Field} {fields : List Field} {u : Int} :
    u ∈ (put field fields).map uid ↔ u = field.uid ∨ u ∈ fields.map uid := by
  induction fields with
  | nil => simp [put]
  | cons first fields ih =>
    rw [put]
    split
    · next huid =>
      -- the new field has the control of the old one
      rw [List.map_cons, List.map_cons, List.mem_cons, List.mem_cons, huid]
      tauto
    · rw [List.map_cons, List.map_cons, List.mem_cons, List.mem_cons, ih]
      tauto

theorem find?_eq_some {fields : List Field} {uid : Int} {field : Field}
    (h : find? fields uid = some field) : field ∈ fields ∧ field.uid = uid := by
  rw [find?] at h
  have huid := List.find?_some h
  exact ⟨List.mem_of_find?_eq_some h, of_decide_eq_true huid⟩

theorem isSome_find?_iff {fields : List Field} {uid : Int} :
    (find? fields uid).isSome ↔ uid ∈ fields.map Field.uid := by
  rw [find?, List.find?_isSome, List.mem_map]
  simp only [decide_eq_true_eq]

theorem find?_eq_some_of_mem {fields : List Field} (hnodup : (fields.map uid).Nodup)
    {field : Field} (h : field ∈ fields) : find? fields field.uid = some field := by
  cases hfind : find? fields field.uid with
  | none =>
    rw [find?] at hfind
    exact absurd (decide_eq_true rfl) (List.find?_eq_none.1 hfind field h)
  | some other =>
    obtain ⟨hother, huid⟩ := find?_eq_some hfind
    rw [List.inj_on_of_nodup_map hnodup hother h huid]

end Field

namespace Inference

/-- What holds of everything that has been inferred so far. -/
structure Sound (s : Inference) : Prop where
  /-- No two fields have the same key. -/
  keys : (s.fields.map Field.key).Nodup
  /-- No two fields belong to the same control. -/
  uids : (s.fields.map Field.uid).Nodup
  /-- The keys of the fields are taken. -/
  taken : ∀ field ∈ s.fields, field.key ∈ s.taken

theorem sound_empty : empty.Sound :=
  ⟨List.nodup_nil, List.nodup_nil, fun _ h => nomatch h⟩

/-- Meeting an element keeps the fields apart. -/
theorem Sound.step {s : Inference} (h : s.Sound) (node : Node) : (s.step node).Sound := by
  rw [Inference.step]
  split
  · -- the new key is not taken, and every key in use is
    have hfree := Naming.unique_not_mem s.taken
      (Control.baseKey (s.count + 1) (Control.givenName (s.count + 1) node.attributes)) []
    refine ⟨Field.nodup_keys_put h.keys fun f hf hkey => ?_, Field.nodup_uids_put h.uids,
      fun f hf => ?_⟩
    · have htaken := h.taken f hf
      rw [hkey] at htaken
      exact hfree htaken
    · rcases Field.mem_of_mem_put hf with rfl | hf
      · exact List.mem_cons_self
      · exact List.mem_cons_of_mem _ (h.taken f hf)
  · exact h

/-- Meeting an element gives it a field if it is a control that can be bound. -/
theorem mem_uids_step {s : Inference} {node : Node} {u : Int} :
    u ∈ (s.step node).fields.map Field.uid ↔
      Control.isBindable node ∧ u = node.uid ∨ u ∈ s.fields.map Field.uid := by
  rw [Inference.step]
  split
  next hbindable => simp [Field.mem_uids_put, hbindable]
  next hbindable => simp [hbindable]

theorem mem_uids_foldl {s : Inference} {nodes : List Node} {u : Int} :
    u ∈ (nodes.foldl Inference.step s).fields.map Field.uid ↔
      (∃ node ∈ nodes, Control.isBindable node ∧ u = node.uid) ∨ u ∈ s.fields.map Field.uid := by
  induction nodes generalizing s with
  | nil => simp
  | cons node nodes ih =>
    rw [List.foldl_cons, ih, mem_uids_step, List.exists_mem_cons_iff]
    exact or_left_comm.trans or_assoc.symm

theorem Sound.foldl {s : Inference} (h : s.Sound) (nodes : List Node) :
    (nodes.foldl Inference.step s).Sound := by
  induction nodes generalizing s with
  | nil => exact h
  | cons node nodes ih => exact ih (h.step node)

end Inference

/-- What holds of the field of every element that is met holds of all fields. -/
theorem forall_inferFields {P : Field → Prop} {root : Node}
    (h : ∀ s : Inference, ∀ node : Node, P
      ⟨Control.givenName (s.count + 1) node.attributes,
        Naming.unique s.taken (Control.baseKey (s.count + 1)
          (Control.givenName (s.count + 1) node.attributes)) [],
        Control.initial node, node.uid⟩) : ∀ field ∈ inferFields root, P field := by
  -- the induction is for any fields that have been found before
  suffices hfold : ∀ nodes : List Node, ∀ s : Inference, (∀ field ∈ s.fields, P field) →
      ∀ field ∈ (nodes.foldl Inference.step s).fields, P field from
    hfold root.elements Inference.empty (List.forall_mem_nil _)
  intro nodes
  induction nodes with
  | nil => exact fun s hs => hs
  | cons node nodes ih =>
    intro s hs
    refine ih (s.step node) fun field hfield => ?_
    rw [Inference.step] at hfield
    split at hfield
    · rcases Field.mem_of_mem_put hfield with rfl | hfield
      · exact h s node
      · exact hs field hfield
    · exact hs field hfield

namespace Control

/-- A control without a usable name has an identifier for a key nevertheless. -/
theorem isIdentifier_baseKey (ordinal : Nat) (name : Text) :
    Naming.IsIdentifier (baseKey ordinal name) := by
  rw [baseKey]
  split
  · refine Naming.isIdentifier_identifier (Naming.wordsFrom_ne_nil (.inr ⟨'f', ?_, rfl⟩))
    exact List.mem_append_left _ List.mem_cons_self
  · next hne =>
    refine Naming.isIdentifier_identifier fun hwords => hne ?_
    rw [Naming.identifier_eq_nil hwords]
    rfl

end Control

/-- Numbers that keep an identifier apart from others leave it an identifier. -/
theorem Naming.IsIdentifier.unique {base : Text} (h : Naming.IsIdentifier base)
    (taken : List Text) : Naming.IsIdentifier (Naming.unique taken base []) := by
  rcases Naming.unique_eq taken base [] with heq | ⟨n, heq⟩
  · rwa [heq]
  · rw [heq, List.append_nil]
    exact h.append fun c hc => by rw [Char.isAlphanum, Text.isDigit_of_mem_ofNat hc, Bool.or_true]

/-- The keys of the fields are identifiers. -/
theorem isIdentifier_key {root : Node} : ∀ field ∈ inferFields root,
    Naming.IsIdentifier field.key :=
  forall_inferFields fun s node => (Control.isIdentifier_baseKey (s.count + 1)
    (Control.givenName (s.count + 1) node.attributes)).unique s.taken

/-- No two of the inferred fields have the same key or belong to the same control. -/
theorem sound_inferFields (root : Node) :
    ((inferFields root).map Field.key).Nodup ∧ ((inferFields root).map Field.uid).Nodup :=
  have h := Inference.sound_empty.foldl root.elements
  ⟨h.keys, h.uids⟩

/-- The controls with fields are the elements that can be bound. -/
theorem mem_uids_inferFields {root : Node} {u : Int} :
    u ∈ (inferFields root).map Field.uid ↔
      ∃ node ∈ root.elements, Control.isBindable node ∧ u = node.uid := by
  rw [inferFields, Inference.mem_uids_foldl]
  exact or_iff_left List.not_mem_nil

end Componentry
