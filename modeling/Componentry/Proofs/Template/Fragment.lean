import Componentry.Proofs.Outcome
import Componentry.Proofs.Text
import Componentry.Template.Emit

/-!
# Where props come from

The props of an element come from its attributes, or tie it to its state field. The attributes of a
bound control give none of the props that it gets from its field, and no attribute gives a prop that
reads the state:

* `Emitter.mem_fragments`: where a prop of an element comes from;
* `Emitter.filter_controlled`: the props of a bound control that its field is responsible for;
* `Fragment.bindsState_iff`: how a prop that reads the state is recognized in the text.
-/

namespace Componentry

namespace Template

namespace Expression

/-- An expression that an attribute may become, which says nothing about the state. -/
def IsPlain : Expression → Prop
  | .state _ => False
  | .update _ _ => False
  | _ => True

end Expression

theorem isPlain_of_expression? {name prop value : Text} {expression : Expression}
    (h : expression? name prop value = .ok (some expression)) : expression.IsPlain := by
  rw [expression?] at h
  split at h
  · -- each kind of prop gives an expression of one form, if it gives any
    cases hempty : (Declarations.parse value).isEmpty <;> simp [hempty] at h
    subst h
    trivial
  · split at h
    · cases h
      trivial
    · split at h
      · cases htruthy : isTruthyFlag name value <;> simp [htruthy] at h
        subst h
        trivial
      · split at h
        · cases h
        · split at h
          · obtain ⟨n, -, hn⟩ := Except.map_eq_ok.1 h
            cases hn
            trivial
          · cases h
            trivial

/-- What is known of a prop that an attribute becomes. -/
structure Fragment.FromAttribute (f : Fragment) (name : Text) (bound : Bool) : Prop where
  /-- The attribute has a prop. -/
  hasProp : hasProp name
  /-- The prop has the name that belongs to the attribute. -/
  name_eq : f.name = propName name
  /-- It is none that a control gets from its field, if the control has one. -/
  free : bound → ¬ controlledProps.contains f.name
  /-- It says nothing about the state. -/
  plain : f.value.IsPlain

theorem fromAttribute_of_fragment? {name value tag : Text} {bound : Bool} {f : Fragment}
    (h : fragment? name value bound tag = .ok (some f)) : f.FromAttribute name bound := by
  rw [fragment?] at h
  split at h
  · cases h
  next hprop =>
    dsimp only at h
    split at h
    · cases h
    next hfree =>
      split at h
      · cases h
      · obtain ⟨expression?, hexpression, hsome⟩ := Except.map_eq_ok.1 h
        obtain ⟨expression, rfl, rfl⟩ := Option.map_eq_some_iff.1 hsome
        -- of a bound control, the prop would have been left out
        refine ⟨by simpa using hprop, rfl, fun hbound hcontrolled => hfree ?_,
          isPlain_of_expression? hexpression⟩
        rw [hbound]
        exact hcontrolled

namespace Emitter

/-- The props of attributes are those of the first one, if it has any, and those of the others. -/
theorem attributeFragments_cons_eq_ok {bound : Bool} {tag : Text} {first : Text × Text}
    {attributes : List (Text × Text)} {props : List Fragment} :
    attributeFragments bound tag (first :: attributes) = .ok props ↔
      ∃ prop? rest, fragment? first.1 first.2 bound tag = .ok prop? ∧
        attributeFragments bound tag attributes = .ok rest ∧ props = prop?.toList ++ rest := by
  obtain ⟨name, value⟩ := first
  rw [attributeFragments]
  constructor
  · intro h
    obtain ⟨prop?, hprop, h⟩ := Except.bind_eq_ok.1 h
    obtain ⟨rest, hrest, h⟩ := Except.bind_eq_ok.1 h
    exact ⟨prop?, rest, hprop, hrest, (Except.ok.inj h).symm⟩
  · rintro ⟨prop?, rest, hprop, hrest, rfl⟩
    exact Except.bind_eq_ok.2 ⟨prop?, hprop, Except.bind_eq_ok.2 ⟨rest, hrest, rfl⟩⟩

theorem mem_attributeFragments {bound : Bool} {tag : Text} {attributes : List (Text × Text)}
    {props : List Fragment} (h : attributeFragments bound tag attributes = .ok props)
    {f : Fragment} (hf : f ∈ props) :
    ∃ pair ∈ attributes, fragment? pair.1 pair.2 bound tag = .ok (some f) := by
  induction attributes generalizing props with
  | nil =>
    cases h
    cases hf
  | cons first attributes ih =>
    obtain ⟨prop?, rest, hfirst, hrest, rfl⟩ := attributeFragments_cons_eq_ok.1 h
    -- the prop is that of the first attribute or of a later one
    rcases List.mem_append.1 hf with hf | hf
    · obtain rfl := Option.mem_toList.1 hf
      exact ⟨first, List.mem_cons_self, hfirst⟩
    · obtain ⟨pair, hmem, heq⟩ := ih hrest hf
      exact ⟨pair, List.mem_cons_of_mem _ hmem, heq⟩

/-- The props of an element are those of its attributes, and then those of its field. -/
theorem fragments_eq_ok {e : Emitter} {node : Node} {props : List Fragment} :
    e.fragments node = .ok props ↔
      ∃ own, attributeFragments (Field.find? e.fields node.uid).isSome (node.tag?.getD [])
          node.attributes = .ok own ∧
        props = own ++ ((Field.find? e.fields node.uid).map binding).getD [] := by
  rw [fragments, Except.map_eq_ok]
  simp only [eq_comm]

/-- A prop of an element comes from an attribute or ties the element to its field. -/
theorem mem_fragments {e : Emitter} {node : Node} {props : List Fragment}
    (h : e.fragments node = .ok props) {f : Fragment} (hf : f ∈ props) :
    (∃ pair ∈ node.attributes, f.FromAttribute pair.1 (Field.find? e.fields node.uid).isSome) ∨
      ∃ field, Field.find? e.fields node.uid = some field ∧ f ∈ binding field := by
  obtain ⟨own, hown, rfl⟩ := fragments_eq_ok.1 h
  rcases List.mem_append.1 hf with hf | hf
  · obtain ⟨pair, hmem, heq⟩ := mem_attributeFragments hown hf
    exact .inl ⟨pair, hmem, fromAttribute_of_fragment? heq⟩
  · cases hfield : Field.find? e.fields node.uid with
    | none =>
      rw [hfield] at hf
      cases hf
    | some field =>
      rw [hfield] at hf
      exact .inr ⟨field, rfl, hf⟩

theorem controlled_of_mem_binding {field : Field} {f : Fragment} (h : f ∈ binding field) :
    controlledProps.contains f.name := by
  rw [binding] at h
  split at h
  all_goals
    simp only [List.mem_cons, List.not_mem_nil, or_false] at h
    rcases h with rfl | rfl <;> rfl

/-- A bound control has those of the props in question that its field gives it, and no others. -/
theorem filter_controlled {e : Emitter} {node : Node} {props : List Fragment} {field : Field}
    (h : e.fragments node = .ok props) (hfield : Field.find? e.fields node.uid = some field) :
    props.filter (controlledProps.contains ·.name) = binding field := by
  obtain ⟨own, hown, rfl⟩ := fragments_eq_ok.1 h
  rw [hfield] at hown ⊢
  -- the attributes give none of them
  have hfree : own.filter (controlledProps.contains ·.name) = [] := by
    refine List.filter_eq_nil_iff.2 fun f hf => ?_
    obtain ⟨pair, -, heq⟩ := mem_attributeFragments hown hf
    exact (fromAttribute_of_fragment? heq).free rfl
  have hbinding : (binding field).filter (controlledProps.contains ·.name) = binding field :=
    List.filter_eq_self.2 fun f hf => controlled_of_mem_binding hf
  rw [List.filter_append, hfree, List.nil_append]
  exact hbinding

end Emitter

/-! ### Reading the state -/

namespace Fragment

/-- A prop reads the state, as its text shows. -/
def BindsState (f : Fragment) : Prop := "\x7bstate.".toList <+: f.value.render f.name

/-- The state key that a prop reads, if any. -/
def stateKey? (f : Fragment) : Option Text :=
  match f.value with
  | .state key => some key
  | _ => none

/-- A prop reads the state if its expression is the value of a state key. -/
theorem bindsState_iff {f : Fragment} : f.BindsState ↔ ∃ key, f.value = .state key := by
  rw [BindsState]
  constructor
  · intro h
    cases hvalue : f.value with
    | state key => exact ⟨key, rfl⟩
    | quoted value =>
      rw [hvalue] at h
      exact absurd (List.cons_prefix_cons.1 h).1 (by decide)
    | integer n =>
      rw [hvalue] at h
      have hsecond := (List.cons_prefix_cons.1 h).2
      -- an integer does not start with a letter
      cases hdigits : Text.ofInt n with
      | nil => exact absurd hdigits (Text.ofInt_ne_nil n)
      | cons c digits =>
        have hmem : c ∈ Text.ofInt n := hdigits ▸ List.mem_cons_self
        rw [hdigits] at hsecond
        obtain rfl : 's' = c := (List.cons_prefix_cons.1 hsecond).1
        rcases Text.minus_or_isDigit_of_mem_ofInt hmem with hc | hc <;> cases hc
    | _ =>
      -- the second character is another one
      rw [hvalue] at h
      exact absurd (List.cons_prefix_cons.1 (List.cons_prefix_cons.1 h).2).1 (by decide)
  · rintro ⟨key, hvalue⟩
    rw [hvalue]
    exact ⟨key ++ ['}'], rfl⟩

end Fragment

end Template

end Componentry
