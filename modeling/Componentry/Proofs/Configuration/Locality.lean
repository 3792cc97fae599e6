import Componentry.Proofs.Configuration.Update

/-!
# Changes in place

A change of the configuration goes down its path from section to section. It makes those that are
missing and stores the value in the last one, and it ends early where something on its way is no
section. By then it has made nothing, so that the configuration is as before. What it stores is seen
under its own path and nowhere else but in the sections around it and in what it replaces.

* `assign`: an update as it is made in place;
* `assign_eq_of_modify`, `assign_eq_of_isBlockedAt`: what it leaves is what `modify` gives, or else
  what was there;
* `modify_eq_notSection_iff`: when an update ends early;
* `lookup_modify_of_incomparable`: what an update leaves as it is;
* `set_is_atomic_and_local`: changes of the configuration.
-/

namespace Componentry

namespace Json

variable {key : Text} {value : Json} {fields : Fields}

theorem put_put (key : Text) (first value : Json) (fields : Fields) :
    put key value (put key first fields) = put key value fields := by
  induction fields with
  | nil => simp [put, Key.same_text]
  | cons field fields ih =>
    by_cases h : field.1 = .text key <;> simp [put, Key.same_text, h, ih]

/-- Nothing changes if a key is given the value that it has. -/
theorem put_of_find? (h : find? key fields = some value) : put key value fields = fields := by
  induction fields with
  | nil => cases h
  | cons field fields ih =>
    obtain ⟨k, v⟩ := field
    rw [find?] at h
    by_cases hk : k = .text key
    · rw [if_pos hk] at h
      simp [put, Key.same_text, hk, Option.some.inj h]
    · rw [if_neg hk] at h
      simp [put, Key.same_text, hk, ih h]

end Json

namespace Configuration

/-! ### What is on the way -/

/-- A value is a section. -/
def IsSection : Json → Prop
  | .object _ => True
  | _ => False

instance : DecidablePred IsSection := fun value => by
  cases value <;> unfold IsSection <;> infer_instance

/-- The value that keys lead to, if there is one, be it the absent value. -/
def held? : List Text → Json → Option Json
  | [], value => some value
  | key :: keys, .object fields => (Json.find? key fields).bind (held? keys)
  | _ :: _, _ => none

/-- On the way along `keys`, and not at their end, there is something under `key` that is no
section. -/
def IsBlockedAt (keys : List Text) (config : Json) (key : Text) : Prop :=
  ∃ front rest value, keys = front ++ key :: rest ∧ rest ≠ [] ∧
    held? (front ++ [key]) config = some value ∧ ¬ IsSection value

theorem not_isBlockedAt_singleton {first key : Text} {config : Json} :
    ¬ IsBlockedAt [first] config key := by
  rintro ⟨front, rest, value, hkeys, hrest, -⟩
  have hlength := congrArg List.length hkeys
  have := List.length_pos_iff.2 hrest
  simp at hlength
  omega

/-- The way is blocked at its first key, or else in the section there. -/
theorem isBlockedAt_cons_iff {first next key : Text} {rest : List Text} {fields : Json.Fields} :
    IsBlockedAt (first :: next :: rest) (.object fields) key ↔
      ∃ value, Json.find? first fields = some value ∧
        (¬ IsSection value ∧ key = first ∨ IsBlockedAt (next :: rest) value key) := by
  constructor
  · rintro ⟨front, last, value, hkeys, hlast, hheld, hvalue⟩
    -- the way is blocked at the first key if no other key leads there
    cases front with
    | nil =>
      obtain ⟨rfl, rfl⟩ := List.cons.inj hkeys
      rw [List.nil_append, held?, Option.bind_eq_some_iff] at hheld
      obtain ⟨found, hfound, hsome⟩ := hheld
      cases hsome
      exact ⟨value, hfound, .inl ⟨hvalue, rfl⟩⟩
    | cons k front =>
      obtain ⟨rfl, hbelow⟩ := List.cons.inj hkeys
      rw [List.cons_append, held?, Option.bind_eq_some_iff] at hheld
      obtain ⟨found, hfound, hheld⟩ := hheld
      exact ⟨found, hfound, .inr ⟨front, last, value, hbelow, hlast, hheld, hvalue⟩⟩
  · rintro ⟨found, hfound, ⟨hvalue, rfl⟩ | ⟨front, last, value, hkeys, hlast, hheld, hvalue⟩⟩
    · exact ⟨[], next :: rest, found, rfl, List.cons_ne_nil _ _, by simp [held?, hfound], hvalue⟩
    · refine ⟨first :: front, last, value, by rw [hkeys]; rfl, hlast, ?_, hvalue⟩
      rw [List.cons_append, held?, hfound]
      exact hheld

/-- There is nothing on the way below a value that is no section. -/
theorem not_isBlockedAt_of_not_isSection {keys : List Text} {config : Json} {key : Text}
    (h : ¬ IsSection config) : ¬ IsBlockedAt keys config key := by
  rintro ⟨front, rest, value, -, -, hheld, -⟩
  cases config with
  | object fields => exact h trivial
  | _ => cases front <;> cases hheld

/-- There is nothing on the way in an empty section. -/
theorem not_isBlockedAt_empty {keys : List Text} {key : Text} :
    ¬ IsBlockedAt keys (.object []) key := by
  rintro ⟨front, rest, value, -, -, hheld, -⟩
  cases front <;> cases hheld

/-! ### Updates in place -/

section Update

variable {ε : Type} {replace : Json → Json} {keys other : List Text} {key : Text}
  {fields changed : Json.Fields}

/-- An update as it is made in place: what it leaves, and the key that it has ended early at, if it
has. Sections are made on the way where there is nothing, and they stay whatever comes after. -/
def assign (replace : Json → Json) : List Text → Json.Fields → Json.Fields × Option Text
  | [], fields => (fields, none)
  | [key], fields =>
    (Json.put key (replace ((Json.find? key fields).getD .null)) fields, none)
  | key :: keys, fields =>
    let opened :=
      match Json.find? key fields with
      | none => Json.put key (.object []) fields
      | some _ => fields
    match Json.find? key opened with
    | some (.object section_) =>
      let (inner, ended?) := assign replace keys section_
      (Json.put key (.object inner) opened, ended?)
    | _ => (opened, some key)

/-- An update ends early exactly if its way is blocked. -/
theorem modify_eq_notSection_iff {replace : Json → Except ε Json} :
    modify replace keys fields = .error (.notSection key) ↔
      IsBlockedAt keys (.object fields) key := by
  induction keys generalizing fields with
  | nil =>
    constructor
    · intro h
      cases h
    · rintro ⟨front, rest, value, hkeys, -⟩
      simp at hkeys
  | cons first rest ih =>
    cases rest with
    | nil =>
      refine iff_of_false ?_ not_isBlockedAt_singleton
      rw [modify]
      cases replace ((Json.find? first fields).getD .null) <;> simp
    | cons next rest =>
      rw [isBlockedAt_cons_iff, modify]
      · cases hfirst : Json.find? first fields with
        | none =>
          -- in a section that is made there is nothing on the way
          have hempty : modify replace (next :: rest) [] ≠ .error (.notSection key) :=
            mt ih.1 not_isBlockedAt_empty
          refine iff_of_false ?_ (by simp)
          dsimp only
          cases hinner : modify replace (next :: rest) [] <;> simp_all [Except.map]
        | some found =>
          simp only [Option.some.injEq, exists_eq_left']
          cases found with
          | object section_ =>
            -- the way goes on in the section
            rw [← ih]
            dsimp only
            cases modify replace (next :: rest) section_ <;> simp [Except.map, IsSection]
          | _ =>
            rw [or_iff_left (not_isBlockedAt_of_not_isSection id)]
            simp [IsSection, eq_comm]
      · simp

/-- An update does not fail at its end if a new value can always be made. -/
theorem modify_ne_replacement (error : ε) :
    modify (fun old => .ok (replace old)) keys fields ≠ .error (.replacement error) := by
  induction keys generalizing fields with
  | nil => exact fun h => nomatch h
  | cons first rest ih =>
    cases rest with
    | nil => exact fun h => nomatch h
    | cons next rest =>
      rw [modify]
      · split
        next =>
          have hinner := @ih []
          cases hmodify : modify (fun old => .ok (replace old)) (next :: rest) [] <;>
            simp_all [Except.map]
        next section_ _ =>
          have hinner := @ih section_
          cases hmodify : modify (fun old => .ok (replace old)) (next :: rest) section_ <;>
            simp_all [Except.map]
        next => simp
      · simp

/-- An update in place that reaches its end leaves the updated fields. -/
theorem assign_eq_of_modify
    (h : modify (fun old => (.ok (replace old) : Except ε Json)) keys fields = .ok changed) :
    assign replace keys fields = (changed, none) := by
  induction keys generalizing fields changed with
  | nil =>
    cases h
    rfl
  | cons first rest ih =>
    cases rest with
    | nil =>
      obtain ⟨value, hvalue, rfl⟩ := modify_singleton_eq_ok.1 h
      cases hvalue
      rfl
    | cons next rest =>
      obtain ⟨section_, inner, hsection, hinner, rfl⟩ := exists_section_of_modify h
      rw [assign]
      · rcases hsection with hsome | ⟨hnone, rfl⟩
        · simp only [hsome, ih hinner]
        · simp only [hnone, Json.find?_put_self, ih hinner, Json.put_put]
      · simp

/-- An update in place that ends early leaves the fields as they were. -/
theorem assign_eq_of_isBlockedAt (h : IsBlockedAt keys (.object fields) key) :
    assign replace keys fields = (fields, some key) := by
  induction keys generalizing fields with
  | nil =>
    obtain ⟨front, _, _, hkeys, _⟩ := h
    simp at hkeys
  | cons first rest ih =>
    cases rest with
    | nil => exact absurd h not_isBlockedAt_singleton
    | cons next rest =>
      obtain ⟨found, hfound, hblocked⟩ := isBlockedAt_cons_iff.1 h
      rw [assign]
      · rcases hblocked with ⟨hvalue, rfl⟩ | hbelow
        · cases found with
          | object section_ => exact absurd trivial hvalue
          | _ => simp only [hfound]
        · cases found with
          | object section_ => simp only [hfound, ih hbelow, Json.put_of_find? hfound]
          | _ => exact absurd hbelow (not_isBlockedAt_of_not_isSection id)
      · simp

/-- An update leaves everything as it is that is neither around nor below the value that it
stores. -/
theorem lookup_modify_of_incomparable {replace : Json → Except ε Json}
    (h : modify replace keys fields = .ok changed) (haround : ¬ other <+: keys)
    (hbelow : ¬ keys <+: other) :
    lookup other (.object changed) = lookup other (.object fields) := by
  induction keys generalizing fields changed other with
  | nil => exact absurd List.nil_prefix hbelow
  | cons key rest ih =>
    cases other with
    | nil => exact absurd List.nil_prefix haround
    | cons first other =>
      by_cases hfirst : first = key
      · subst hfirst
        rw [List.cons_prefix_cons, not_and] at haround hbelow
        cases rest with
        | nil => exact absurd List.nil_prefix (hbelow rfl)
        | cons next rest =>
          obtain ⟨section_, inner, hsection, hinner, rfl⟩ := exists_section_of_modify h
          rw [lookup_put_self, ih hinner (haround rfl) (hbelow rfl)]
          rcases hsection with hsome | ⟨hnone, rfl⟩
          · simp [lookup, hsome]
          · -- there is nothing in the section that is made, as there was nothing before
            cases other with
            | nil => exact absurd List.nil_prefix (haround rfl)
            | cons second other => simp [lookup, hnone, Json.find?, lookup_null]
      · exact lookup_modify_of_ne h hfirst other

end Update

/-! ### Texts as new values -/

/-- A value has no fields. -/
def IsBare (value : Json) : Prop := ∀ fields, value = .object fields → fields = []

/-- A text fits a type or does not, and it never becomes the absent value or one with fields. -/
theorem castLike_string_cases (t : Text) (old : Json) :
    castLike old (.string t) = .error .unfit ∨
      ∃ value, castLike old (.string t) = .ok value ∧ value ≠ .null ∧ IsBare value := by
  cases old with
  | null => exact .inr ⟨_, rfl, by simp, nofun⟩
  | bool b =>
    rw [castLike, castToBool]
    · split_ifs
      · exact .inr ⟨_, rfl, by simp, nofun⟩
      · exact .inr ⟨_, rfl, by simp, nofun⟩
      · exact .inl rfl
    · simp
  | int n =>
    rw [castLike, castToInt]
    cases Numeral.readInteger t with
    | ok m => exact .inr ⟨_, rfl, by simp, nofun⟩
    | error error => exact .inl rfl
  | float x =>
    rw [castLike, castToFloat]
    cases Numeral.Double.read? t with
    | some y => exact .inr ⟨_, rfl, by simp, nofun⟩
    | none => exact .inl rfl
  | string text => exact .inr ⟨_, rfl, by simp, nofun⟩
  | array elements => exact .inr ⟨_, rfl, by simp, nofun⟩
  | object fields =>
    cases t with
    | nil =>
      refine .inr ⟨_, rfl, by simp, fun fields hfields => ?_⟩
      exact (Json.object.inj hfields).symm
    | cons c rest => exact .inl rfl

/-- What is stored for a text in the place of `old`: the text in the type of `old`, or the text
itself if it does not fit. -/
def storedText (t : Text) (old : Json) : Json :=
  (castLike old (.string t)).toOption.getD (.string t)

/-- A text is stored in the place of any value. -/
theorem stored_string (t : Text) : stored (.string t) = fun old => .ok (storedText t old) := by
  funext old
  rw [stored, storedText]
  rcases castLike_string_cases t old with hcast | ⟨value, hcast, -⟩ <;> rw [hcast] <;> rfl

/-- What is stored for a text is a value that is there, and one without fields. -/
theorem storedText_spec (t : Text) (old : Json) :
    storedText t old ≠ .null ∧ IsBare (storedText t old) := by
  rw [storedText]
  rcases castLike_string_cases t old with hcast | ⟨value, hcast, hvalue⟩
  · rw [hcast]
    exact ⟨by simp [Except.toOption], nofun⟩
  · rw [hcast]
    exact hvalue

/-! ### Changes -/

theorem get_eq_of_lookup_eq {config after : Json} {path : Text}
    (h : lookup (keys path) after = lookup (keys path) config) (fallback : Json) :
    get after path fallback = get config path fallback := by
  rw [get, get?, h, get, get?]

theorem get_eq_of_ne_null {config value : Json} {path : Text}
    (h : lookup (keys path) config = value) (hvalue : value ≠ .null) (fallback : Json) :
    get config path fallback = value := by
  rw [get, get?, h]
  cases value with
  | null => exact absurd rfl hvalue
  | _ => rfl

/-- A text is refused or stored. -/
theorem set_string_cases (fields : Json.Fields) (path t : Text) :
    (∃ key, set (.object fields) path (.string t) = .ok (.refused (sectionError key)) ∧
        IsBlockedAt (keys path) (.object fields) key) ∨
      ∃ changed warnings,
        set (.object fields) path (.string t) = .ok (.stored (.object changed) warnings) ∧
          modify (stored (.string t)) (keys path) fields = .ok changed := by
  rw [set]
  cases hmodify : modify (stored (.string t)) (keys path) fields with
  | ok changed => exact .inr ⟨changed, _, rfl, rfl⟩
  | error obstacle =>
    cases obstacle with
    | notSection key => exact .inl ⟨key, rfl, modify_eq_notSection_iff.1 hmodify⟩
    | replacement error =>
      rw [stored_string] at hmodify
      exact absurd hmodify (modify_ne_replacement error)

/-- A change of a configuration by a text is refused or made. It is refused exactly if something on
its way is no section, and nothing has been changed by then. Otherwise the path leads to the text in
the type of the value that was there before, or to the text itself if it does not fit or there was
no value, and every path that is neither around nor below this one leads to what it led to
before. -/
theorem set_is_atomic_and_local (fields : Json.Fields) (path t : Text) :
    let config : Json := .object fields
    let update := assign (storedText t) (keys path) fields
    (∃ key, set config path (.string t) = .ok (.refused (sectionError key)) ∧
        update = (fields, some key) ∧ IsBlockedAt (keys path) config key) ∨
      ∃ changed warnings,
        set config path (.string t) = .ok (.stored (.object changed) warnings) ∧
          update = (changed, none) ∧ (∀ key, ¬ IsBlockedAt (keys path) config key) ∧
          (∀ fallback,
            get (.object changed) path fallback = storedText t (lookup (keys path) config)) ∧
          ∀ other, ¬ keys other <+: keys path → ¬ keys path <+: keys other → ∀ fallback,
            get (.object changed) other fallback = get config other fallback := by
  intro config update
  rcases set_string_cases fields path t with
    ⟨key, hset, hblocked⟩ | ⟨changed, warnings, hset, hmodify⟩
  · exact .inl ⟨key, hset, assign_eq_of_isBlockedAt hblocked, hblocked⟩
  · refine .inr ⟨changed, warnings, hset, ?_, fun key hblocked => ?_, fun fallback => ?_,
      fun other haround hbelow fallback => ?_⟩
    · rw [stored_string] at hmodify
      exact assign_eq_of_modify hmodify
    · rw [modify_eq_notSection_iff.2 hblocked] at hmodify
      cases hmodify
    · have hself := lookup_modify_self (Text.splitOn_ne_nil '.' path) hmodify
      rw [stored_string] at hself
      exact get_eq_of_ne_null (Except.ok.inj hself).symm (storedText_spec t _).1 fallback
    · exact get_eq_of_lookup_eq (lookup_modify_of_incomparable hmodify haround hbelow) fallback

end Configuration

end Componentry
