import Componentry.Markup.Document
import Componentry.Proofs.Template.Fragment
import Componentry.Proofs.Template.PropName

/-!
# Props of the same name

Two attributes of an element may become props of the same name, although their own names differ.
Events, names that are kept as they are and all other names do not mix: what a prop starts with
tells them apart. Within each of the three, letter case and dropped marks are all that can be lost.

* `SharesProp`: how the names of two attributes come to have the same prop;
* `propName_eq_iff`: there is no other way;
* `Emitter.nodup_name_iff`: when a tag repeats no prop.
-/

namespace Componentry

namespace Template

/-! ### Kinds of names -/

/-- A name that is kept: it starts with `aria-` or `data-`. -/
def isKeptName (name : Text) : Bool := Text.startsWith name "aria-" || Text.startsWith name "data-"

/-- The name of a prop that is neither that of an event nor kept. -/
def joinedName (name : Text) : Text :=
  (renamedProps.lookup name).getD (joinHumps (Naming.camelCase name))

theorem renamedProps_keys :
    ∀ row ∈ renamedProps, ¬ isEventName row.1 ∧ ¬ isKeptName row.1 := by decide +kernel

theorem propName_of_isEventName {name : Text} (h : isEventName name.lower) :
    propName name = (eventProp? name.lower).getD name.lower := by
  rw [propName]
  split
  next hlookup =>
    exact absurd h (renamedProps_keys _ (List.mem_of_lookup_eq_some hlookup)).1
  next => rw [if_pos h]

theorem propName_of_isKeptName {name : Text} (hevent : ¬ isEventName name.lower)
    (h : isKeptName name.lower) : propName name = name.lower := by
  rw [propName]
  split
  next hlookup =>
    exact absurd h (renamedProps_keys _ (List.mem_of_lookup_eq_some hlookup)).2
  next =>
    rw [if_neg hevent]
    exact if_pos h

theorem propName_of_joined {name : Text} (hevent : ¬ isEventName name.lower)
    (hkept : ¬ isKeptName name.lower) : propName name = joinedName name.lower := by
  rw [propName, joinedName]
  split
  next hlookup => rw [hlookup, Option.getD_some]
  next hlookup =>
    rw [if_neg hevent, hlookup, Option.getD_none]
    exact if_neg hkept

theorem isEventName_lower_iff {name : Text} :
    isEventName name.lower ↔ ∃ c rest, name.lower = 'o' :: 'n' :: c :: rest := by
  rw [isEventName, Text.lower_lower, Bool.and_eq_true, decide_eq_true_eq, Text.startsWith,
    List.isPrefixOf_iff_prefix]
  constructor
  · rintro ⟨hlength, t, ht⟩
    rw [← ht] at hlength ⊢
    cases t with
    | nil => exact absurd hlength (by decide)
    | cons c rest => exact ⟨c, rest, rfl⟩
  · rintro ⟨c, rest, heq⟩
    rw [heq]
    exact ⟨by simp, c :: rest, rfl⟩

/-! ### What props start with -/

/-- Without capitals, nothing is a start of a text that starts with one. -/
theorem eq_nil_of_prefix_capital {p t : Text} {c : Char} (hp : ∀ d ∈ p, ¬ d.isUpper)
    (hc : c.isUpper) (h : p <+: c :: t) : p = [] := by
  cases p with
  | nil => rfl
  | cons d p =>
    obtain ⟨rfl, -⟩ := List.cons_prefix_cons.1 h
    exact absurd hc (hp d List.mem_cons_self)

/-- The starts of two texts without capitals are compared character by character. -/
theorem prefix_cons_of_prefix {p s t : Text} {c : Char} (hp : ∀ d ∈ p, ¬ d.isUpper)
    (hrest : ∀ {q : Text}, (∀ d ∈ q, ¬ d.isUpper) → q <+: s → q <+: t) (h : p <+: c :: s) :
    p <+: c :: t := by
  cases p with
  | nil => exact List.nil_prefix
  | cons d p =>
    rw [List.forall_mem_cons] at hp
    obtain ⟨rfl, htail⟩ := List.cons_prefix_cons.1 h
    exact List.cons_prefix_cons.2 ⟨rfl, hrest hp.2 htail⟩

/-- What `camelCase` starts with is there before, up to the first capital. -/
theorem prefix_of_prefix_camelCase {p t : Text} (hp : ∀ c ∈ p, ¬ c.isUpper)
    (h : p <+: Naming.camelCase t) : p <+: t := by
  fun_induction Naming.camelCase t generalizing p with
  | case1 c t hlower _ =>
    have hupper : c.toUpper.isUpper := by
      rw [Char.isUpper_toUpper_eq_isAlpha, Char.isAlpha, hlower, Bool.or_true]
    rw [eq_nil_of_prefix_capital hp hupper h]
    exact List.nil_prefix
  | case2 c t _ ih => exact prefix_cons_of_prefix hp ih h
  | case3 c t _ ih => exact prefix_cons_of_prefix hp ih h
  | case4 => exact h

/-- What `joinHumps` starts with is there before, up to the first capital. -/
theorem prefix_of_prefix_joinHumps {p t : Text} (hp : ∀ c ∈ p, ¬ c.isUpper)
    (h : p <+: joinHumps t) : p <+: t := by
  fun_induction joinHumps t generalizing p with
  | case1 mark c t hmark _ =>
    rw [Bool.and_eq_true] at hmark
    have hupper : c.toUpper.isUpper := by
      rw [Char.isUpper_toUpper_eq_isAlpha]
      exact hmark.2
    rw [eq_nil_of_prefix_capital hp hupper h]
    exact List.nil_prefix
  | case2 mark c t _ ih => exact prefix_cons_of_prefix hp ih h
  | case3 => exact h

/-- A prop that is neither that of an event nor kept starts like neither. -/
theorem joinedName_starts {name : Text} (hevent : ¬ isEventName name.lower)
    (hkept : ¬ isKeptName name.lower) :
    ¬ isKeptName (joinedName name.lower) ∧
      ∀ c rest, joinedName name.lower ≠ 'o' :: 'n' :: c :: rest := by
  rw [joinedName]
  cases hlookup : renamedProps.lookup name.lower with
  | some prop =>
    have hvalues : ∀ row ∈ renamedProps, ¬ isKeptName row.2 ∧ ¬ "on".toList <+: row.2 := by
      decide +kernel
    obtain ⟨hprop, hon⟩ := hvalues _ (List.mem_of_lookup_eq_some hlookup)
    refine ⟨hprop, fun c rest heq => hon ?_⟩
    rw [Option.getD_some] at heq
    exact ⟨c :: rest, heq.symm⟩
  | none =>
    have hstart : ∀ p : Text, p.all (!·.isUpper) →
        p <+: joinHumps (Naming.camelCase name.lower) → p <+: name.lower := by
      intro p hp h
      have hsmall : ∀ c ∈ p, ¬ c.isUpper := by simpa using hp
      exact prefix_of_prefix_camelCase hsmall (prefix_of_prefix_joinHumps hsmall h)
    rw [Option.getD_none]
    refine ⟨fun h => hkept ?_, fun c rest heq => hevent ?_⟩
    · simp only [isKeptName, Bool.or_eq_true, Text.startsWith, List.isPrefixOf_iff_prefix] at h ⊢
      exact h.imp (hstart _ (by decide)) (hstart _ (by decide))
    · -- a name that starts like an event and is none is no longer than that
      obtain ⟨tail, htail⟩ := hstart "on" (by decide) ⟨c :: rest, heq.symm⟩
      cases tail with
      | nil =>
        rw [← htail] at heq
        cases heq
      | cons d tail => exact isEventName_lower_iff.2 ⟨d, tail, htail.symm⟩

/-! ### Events -/

theorem length_upperChar (c : Char) :
    (Casing.upperChar c).length ≤ 3 ∧ Casing.upperChar c ≠ [] := by
  rw [Casing.upperChar]
  split
  · exact ⟨by simp, List.cons_ne_nil _ _⟩
  · split
    next points hlookup =>
      have hall : ∀ row ∈ Casing.upperExpansions, row.2.length ≤ 3 ∧ row.2 ≠ [] := by
        decide +kernel
      obtain ⟨hlength, hne⟩ := hall _ (List.mem_of_lookup_eq_some hlookup)
      exact ⟨by rwa [List.length_map], by rwa [Ne, List.map_eq_nil_iff]⟩
    · exact ⟨by simp, List.cons_ne_nil _ _⟩

/-- The prop of an event starts with `on` and goes on. -/
theorem exists_eventProp?_eq {name : Text} (h : isEventName name.lower) :
    ∃ c rest, eventProp? name.lower = some ('o' :: 'n' :: c :: rest) := by
  obtain ⟨c, rest, hname⟩ := isEventName_lower_iff.1 h
  rw [eventProp?, Text.lower_lower]
  split
  next prop hlookup =>
    have hvalues : ∀ row ∈ renamedEvents, 2 < row.2.length ∧ "on".toList <+: row.2 := by
      decide +kernel
    obtain ⟨hlength, tail, htail⟩ := hvalues _ (List.mem_of_lookup_eq_some hlookup)
    dsimp only at hlength htail
    rw [← htail] at hlength ⊢
    cases tail with
    | nil => exact absurd hlength (by decide)
    | cons d tail => exact ⟨d, tail, rfl⟩
  next =>
    rw [hname]
    obtain ⟨d, tail, hcapital⟩ := List.exists_cons_of_ne_nil (length_upperChar c).2
    exact ⟨d, tail ++ rest, by simp [hcapital]⟩

/-- The prop of a renamed event has a capital that no other event has there. -/
theorem renamedEvents_apart {row : Text × Text} (hrow : row ∈ renamedEvents) {c : Char}
    {rest : Text} (hrest : ∀ d ∈ rest, ¬ d.isUpper) :
    row.2 ≠ 'o' :: 'n' :: (Casing.upperChar c ++ rest) := by
  intro heq
  have hall : ∀ row ∈ renamedEvents, (row.2.drop 5).any Char.isUpper := by decide +kernel
  obtain ⟨d, hd, hupper⟩ := List.any_eq_true.1 (hall row hrow)
  -- three characters at most are a capital of one letter
  rw [heq, List.drop_succ_cons, List.drop_succ_cons, List.drop_append,
    List.drop_of_length_le (length_upperChar c).1, List.nil_append] at hd
  exact hrest d (List.mem_of_mem_drop hd) hupper

theorem renamedEvents_injective {row other : Text × Text} (hrow : row ∈ renamedEvents)
    (hother : other ∈ renamedEvents) (h : row.2 = other.2) : row.1 = other.1 := by
  have hall : ∀ row ∈ renamedEvents, ∀ other ∈ renamedEvents,
      row.2 = other.2 → row.1 = other.1 := by decide +kernel
  exact hall row hrow other hother h

/-! ### Names with the same prop -/

/-- How the names of two attributes come to have the same prop. -/
inductive SharesProp (name other : Text) : Prop
  /-- They differ in letter case at most. -/
  | cased (h : name.lower = other.lower)
  /-- They are those of events of which none is renamed, and differ in the third letter, whose
  capitals do not keep them apart. -/
  | event {c d : Char} {rest more : Text} (hname : name.lower = 'o' :: 'n' :: c :: rest)
    (hother : other.lower = 'o' :: 'n' :: d :: more)
    (hrenamed : renamedEvents.lookup name.lower = none ∧ renamedEvents.lookup other.lower = none)
    (h : Casing.upperChar c ++ rest = Casing.upperChar d ++ more)
  /-- They are no events and not kept, and become the same once they are renamed or joined. -/
  | joined (hevent : ¬ isEventName name.lower ∧ ¬ isEventName other.lower)
    (hkept : ¬ isKeptName name.lower ∧ ¬ isKeptName other.lower)
    (h : joinedName name.lower = joinedName other.lower)

theorem eventProp?_of_not_renamed {name rest : Text} {c : Char}
    (hname : name.lower = 'o' :: 'n' :: c :: rest)
    (hrenamed : renamedEvents.lookup name.lower = none) :
    eventProp? name.lower = some ('o' :: 'n' :: (Casing.upperChar c ++ rest)) := by
  rw [eventProp?, Text.lower_lower, hrenamed, hname]
  rfl

theorem eventProp?_of_renamed {name prop : Text}
    (hrenamed : renamedEvents.lookup name.lower = some prop) :
    eventProp? name.lower = some prop := by
  rw [eventProp?, Text.lower_lower, hrenamed]

/-- Two events have the same prop only if the capitals of their third letters do not keep them
apart. -/
theorem sharesProp_of_events {name other : Text} (hname : isEventName name.lower)
    (hother : isEventName other.lower) (h : eventProp? name.lower = eventProp? other.lower) :
    SharesProp name other := by
  obtain ⟨c, rest, hc⟩ := isEventName_lower_iff.1 hname
  obtain ⟨d, more, hd⟩ := isEventName_lower_iff.1 hother
  -- beyond the third letter, an event that is not renamed has no capital
  have hsmall : ∀ {t : Text} {c : Char} {rest : Text}, t.lower = 'o' :: 'n' :: c :: rest →
      ∀ d ∈ rest, ¬ d.isUpper := fun ht d hd =>
    Text.not_isUpper_of_mem_lower (ht ▸ List.mem_cons_of_mem _ (List.mem_cons_of_mem _
      (List.mem_cons_of_mem _ hd)))
  cases hfirst : renamedEvents.lookup name.lower with
  | some prop =>
    rw [eventProp?_of_renamed hfirst] at h
    have hrow := List.mem_of_lookup_eq_some hfirst
    cases hsecond : renamedEvents.lookup other.lower with
    | some prop' =>
      rw [eventProp?_of_renamed hsecond] at h
      exact .cased (renamedEvents_injective hrow (List.mem_of_lookup_eq_some hsecond)
        (Option.some.inj h))
    | none =>
      rw [eventProp?_of_not_renamed hd hsecond] at h
      exact absurd (Option.some.inj h) (renamedEvents_apart hrow (hsmall hd))
  | none =>
    rw [eventProp?_of_not_renamed hc hfirst] at h
    cases hsecond : renamedEvents.lookup other.lower with
    | some prop =>
      rw [eventProp?_of_renamed hsecond] at h
      exact absurd (Option.some.inj h).symm
        (renamedEvents_apart (List.mem_of_lookup_eq_some hsecond) (hsmall hc))
    | none =>
      rw [eventProp?_of_not_renamed hd hsecond] at h
      exact .event hc hd ⟨hfirst, hsecond⟩
        (List.cons.inj (List.cons.inj (Option.some.inj h)).2).2

/-- What the prop of an event starts with tells it from the others. -/
theorem propName_ne_of_event {name other : Text} (hname : isEventName name.lower)
    (hother : ¬ isEventName other.lower) : propName name ≠ propName other := by
  obtain ⟨c, rest, hprop⟩ := exists_eventProp?_eq hname
  rw [propName_of_isEventName hname, hprop, Option.getD_some]
  intro heq
  by_cases hkept : isKeptName other.lower
  · rw [propName_of_isKeptName hother hkept] at heq
    exact hother (isEventName_lower_iff.2 ⟨c, rest, heq.symm⟩)
  · rw [propName_of_joined hother hkept] at heq
    exact (joinedName_starts hother hkept).2 c rest heq.symm

/-- A name that is kept is its own prop, and no other prop starts like it. -/
theorem propName_ne_of_kept {name other : Text} (hname : ¬ isEventName name.lower)
    (hother : ¬ isEventName other.lower) (hkept : isKeptName name.lower)
    (hjoined : ¬ isKeptName other.lower) : propName name ≠ propName other := by
  rw [propName_of_isKeptName hname hkept, propName_of_joined hother hjoined]
  intro heq
  exact (joinedName_starts hother hjoined).1 (heq ▸ hkept)

theorem sharesProp_of_propName_eq {name other : Text} (h : propName name = propName other) :
    SharesProp name other := by
  by_cases hname : isEventName name.lower
  · by_cases hother : isEventName other.lower
    · -- both have a prop, so that none of them is left as it is
      obtain ⟨c, rest, hprop⟩ := exists_eventProp?_eq hname
      obtain ⟨d, more, hprop'⟩ := exists_eventProp?_eq hother
      rw [propName_of_isEventName hname, propName_of_isEventName hother, hprop, hprop'] at h
      exact sharesProp_of_events hname hother (by rw [hprop, hprop']; exact congrArg some h)
    · exact absurd h (propName_ne_of_event hname hother)
  · by_cases hother : isEventName other.lower
    · exact absurd h.symm (propName_ne_of_event hother hname)
    · by_cases hkept : isKeptName name.lower
      · by_cases hkept' : isKeptName other.lower
        · rw [propName_of_isKeptName hname hkept, propName_of_isKeptName hother hkept'] at h
          exact .cased h
        · exact absurd h (propName_ne_of_kept hname hother hkept hkept')
      · by_cases hkept' : isKeptName other.lower
        · exact absurd h.symm (propName_ne_of_kept hother hname hkept' hkept)
        · -- what is left is renamed or joined, which is what the two share
          rw [propName_of_joined hname hkept, propName_of_joined hother hkept'] at h
          exact .joined ⟨hname, hother⟩ ⟨hkept, hkept'⟩ h

/-- Attributes have the same prop if their names come to share it, and only then. -/
theorem propName_eq_iff {name other : Text} :
    propName name = propName other ↔ SharesProp name other := by
  refine ⟨sharesProp_of_propName_eq, fun h => ?_⟩
  cases h with
  | cased h => rw [propName, propName, h]
  | event hname hother hrenamed h =>
    rw [propName_of_isEventName (isEventName_lower_iff.2 ⟨_, _, hname⟩),
      propName_of_isEventName (isEventName_lower_iff.2 ⟨_, _, hother⟩),
      eventProp?_of_not_renamed hname hrenamed.1, eventProp?_of_not_renamed hother hrenamed.2, h]
    rfl
  | joined hevent hkept h =>
    rw [propName_of_joined hevent.1 hkept.1, propName_of_joined hevent.2 hkept.2, h]

/-! ### Props of an element -/

namespace Emitter

/-- The attributes of an element become the props that each of them becomes. -/
theorem mem_attributeFragments_iff {bound : Bool} {tag : Text} {attributes : List (Text × Text)}
    {props : List Fragment} (h : attributeFragments bound tag attributes = .ok props)
    {f : Fragment} :
    f ∈ props ↔ ∃ pair ∈ attributes, fragment? pair.1 pair.2 bound tag = .ok (some f) := by
  refine ⟨mem_attributeFragments h, ?_⟩
  induction attributes generalizing props with
  | nil =>
    rintro ⟨pair, hpair, -⟩
    cases hpair
  | cons first attributes ih =>
    obtain ⟨prop?, rest, hfirst, hrest, rfl⟩ := attributeFragments_cons_eq_ok.1 h
    rintro ⟨pair, hpair, hf⟩
    rw [List.mem_append, Option.mem_toList]
    -- the prop of the first attribute comes first
    rcases List.mem_cons.1 hpair with rfl | hpair
    · rw [hfirst] at hf
      exact .inl (Except.ok.inj hf)
    · exact .inr (ih hrest ⟨pair, hpair, hf⟩)

/-- Attributes become props of different names unless the names of two of them come to share a
prop. -/
theorem nodup_attributeFragments_iff {bound : Bool} {tag : Text} {attributes : List (Text × Text)}
    {props : List Fragment} (h : attributeFragments bound tag attributes = .ok props) :
    (props.map Fragment.name).Nodup ↔ attributes.Pairwise fun a b =>
      (∃ f, fragment? a.1 a.2 bound tag = .ok (some f)) →
      (∃ f, fragment? b.1 b.2 bound tag = .ok (some f)) → ¬ SharesProp a.1 b.1 := by
  induction attributes generalizing props with
  | nil =>
    cases h
    simp
  | cons first attributes ih =>
    obtain ⟨prop?, rest, hfirst, hrest, rfl⟩ := attributeFragments_cons_eq_ok.1 h
    rw [List.pairwise_cons, ← ih hrest]
    cases prop? with
    | none =>
      -- an attribute without a prop shares none
      refine (and_iff_right ?_).symm
      rintro b - ⟨f, hf⟩
      rw [hfirst] at hf
      cases hf
    | some f =>
      have hname := (fromAttribute_of_fragment? hfirst).name_eq
      rw [Option.toList_some, List.singleton_append, List.map_cons, List.nodup_cons]
      refine and_congr_left fun _ => ?_
      constructor
      · rintro hnot b hb - ⟨g, hg⟩ hshares
        refine hnot (List.mem_map.2 ⟨g, (mem_attributeFragments_iff hrest).2 ⟨b, hb, hg⟩, ?_⟩)
        rw [(fromAttribute_of_fragment? hg).name_eq, hname]
        exact (propName_eq_iff.2 hshares).symm
      · intro hall hmem
        obtain ⟨g, hg, heq⟩ := List.mem_map.1 hmem
        obtain ⟨b, hb, hg⟩ := mem_attributeFragments hrest hg
        refine hall b hb ⟨f, hfirst⟩ ⟨g, hg⟩ (propName_eq_iff.1 ?_)
        rw [← hname, ← heq, (fromAttribute_of_fragment? hg).name_eq]

theorem nodup_binding (field : Field) : ((binding field).map Fragment.name).Nodup := by
  rw [binding]
  split <;> simp

/-- An attribute of an element becomes a prop of it. -/
def GivesProp (e : Emitter) (node : Node) (pair : Text × Text) : Prop :=
  ∃ f, fragment? pair.1 pair.2 (Field.find? e.fields node.uid).isSome (node.tag?.getD []) =
    .ok (some f)

/-- A tag repeats no prop unless two attributes become props, whose names come to share one. What
ties a control to its state never repeats the prop of an attribute. -/
theorem nodup_name_iff {e : Emitter} {node : Node} {props : List Fragment}
    (h : e.fragments node = .ok props) :
    (props.map Fragment.name).Nodup ↔ node.attributes.Pairwise fun a b =>
      e.GivesProp node a → e.GivesProp node b → ¬ SharesProp a.1 b.1 := by
  obtain ⟨own, hown, rfl⟩ := fragments_eq_ok.1 h
  refine Iff.trans ?_ (nodup_attributeFragments_iff hown)
  cases hfield : Field.find? e.fields node.uid with
  | none => rw [Option.map_none, Option.getD_none, List.append_nil]
  | some field =>
    rw [hfield] at hown
    rw [Option.map_some, Option.getD_some, List.map_append, List.nodup_append]
    refine ⟨fun hall => hall.1, fun hnodup => ⟨hnodup, nodup_binding field, ?_⟩⟩
    -- the attributes of a bound control give none of the props that it gets from its state
    rintro name hname other hother rfl
    obtain ⟨f, hf, rfl⟩ := List.mem_map.1 hname
    obtain ⟨g, hg, heq⟩ := List.mem_map.1 hother
    obtain ⟨pair, -, hattribute⟩ := mem_attributeFragments hown hf
    exact (fromAttribute_of_fragment? hattribute).free rfl (heq ▸ controlled_of_mem_binding hg)

/-- A text field whose own handler gives way to that of the state. -/
theorem nodup_name_iff_field :
    let e : Emitter := ⟨[⟨"q", "q", .text [], 1⟩], []⟩
    let node : Node := .element 1 "input" [("class", "a"), ("onchange", "go()"), ("name", "q")] []
    ∃ props, e.fragments node = .ok props ∧
      props.map Fragment.name =
        ["className".toList, "name".toList, "value".toList, "onChange".toList] ∧
      node.attributes.Pairwise fun a b =>
        e.GivesProp node a → e.GivesProp node b → ¬ SharesProp a.1 b.1 := by
  intro e node
  have hprops : e.fragments node = .ok [⟨"className", .quoted "a"⟩, ⟨"name", .quoted "q"⟩,
      ⟨"value", .state "q"⟩, ⟨"onChange", .update "q" "value"⟩] := by decide +kernel
  exact ⟨_, hprops, rfl, (nodup_name_iff hprops).1 (by decide +kernel)⟩

/-- An element of a document whose attributes have different names may have a prop twice. -/
theorem class_name_repeated :
    ∃ document, Document.parse .closes "<p class=a class-name=b>x</p>".toList = .ok document ∧
      ∃ node ∈ document.body.children, (node.attributes.map Prod.fst).Nodup ∧
        ∃ props, (Emitter.mk [] []).fragments node = .ok props ∧
          ¬ (props.map Fragment.name).Nodup := by
  have hchildren : (Document.parse .closes "<p class=a class-name=b>x</p>".toList).toOption.map
      (fun document => document.body.children.map fun node => (node.tag?, node.attributes)) =
        some [(some "p".toList, Text.pairs [("class", "a"), ("class-name", "b")])] := by
    decide +kernel
  cases hparse : Document.parse .closes "<p class=a class-name=b>x</p>".toList with
  | error rejection =>
    rw [hparse] at hchildren
    cases hchildren
  | ok document =>
    rw [hparse] at hchildren
    obtain ⟨node, hnode, hfields⟩ := List.map_eq_singleton_iff.1 (Option.some.inj hchildren)
    obtain ⟨htag, hattributes⟩ := Prod.mk.inj hfields
    refine ⟨document, rfl, node, hnode ▸ List.mem_singleton_self node, ?_,
      [⟨"className", .quoted "a"⟩, ⟨"className", .quoted "b"⟩], ?_, by decide⟩
    · rw [hattributes]
      decide
    · rw [fragments, htag, hattributes]
      rfl

end Emitter

end Template

end Componentry
