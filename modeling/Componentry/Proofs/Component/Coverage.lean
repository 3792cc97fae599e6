import Componentry.Proofs.Component.Layout
import Componentry.Proofs.Markup.Numbering
import Componentry.Proofs.Unit.Decomposition

/-!
# Coverage

Every node below the body of a document belongs to one unit, that of the innermost root of a unit
on the path to the node, or else to a slot of the root component. So no node is written twice, and
one that is neither left out nor inside an element without content is written:

* `Layout.mem_written_iff`: a node is written by the unit that owns it, or by a slot;
* `Layout.nodup_written`: no node is written twice;
* `Layout.mem_written_of_kept`: what is kept and not cut off is written;
* `Conversion.writes_each_node_once`: what a conversion does with each node of the body.
-/

namespace Componentry

open Node Template

namespace Template.Emitter

/-- The path to a node is cut: an element without content stands on it before the node, at or below
the innermost root of a unit. -/
def IsCut (e : Emitter) (path : List Node) : Prop :=
  ∃ outer node inner, path = outer ++ node :: inner ∧ inner ≠ [] ∧
    (∀ m ∈ inner, e.units.lookup m.uid = none) ∧ e.isChildless node

end Template.Emitter

/-! ### Splitting a path at its last root -/

/-- A list with an element that has a property splits at the last such element. -/
theorem exists_last_split {α : Type} {p : α → Prop} {l : List α} (h : ∃ x ∈ l, p x) :
    ∃ outer x inner, l = outer ++ x :: inner ∧ p x ∧ ∀ y ∈ inner, ¬ p y := by
  induction l with
  | nil =>
    obtain ⟨x, hx, -⟩ := h
    cases hx
  | cons a l ih =>
    -- the last such element is in the rest of the list, if one is there
    by_cases hrest : ∃ x ∈ l, p x
    · obtain ⟨outer, x, inner, rfl, hx, hinner⟩ := ih hrest
      exact ⟨a :: outer, x, inner, rfl, hx, hinner⟩
    · obtain ⟨x, hx, hpx⟩ := h
      rcases List.mem_cons.1 hx with rfl | hx
      · exact ⟨[], x, l, rfl, hpx, fun y hy hpy => hrest ⟨y, hy, hpy⟩⟩
      · exact absurd ⟨x, hx, hpx⟩ hrest

/-- The part of a path from one of its nodes on ends as the path does. -/
theorem exists_concat_of_split {α : Type} {path outer inner : List α} {r n : α}
    (h : path ++ [n] = outer ++ r :: inner) : ∃ passed, r :: inner = passed ++ [n] := by
  have hlast : (path ++ [n]).getLast? = (r :: inner).getLast? := by
    rw [h, List.getLast?_append_of_ne_nil _ (List.cons_ne_nil r inner)]
  rw [List.getLast?_concat] at hlast
  exact ⟨_, (List.dropLast_append_getLast? n hlast.symm).symm⟩

/-- Of two elements of a list at which it is split, one comes after the other or they are the
same. -/
theorem split_cases {α : Type} {x y : α} {outer outer' inner inner' : List α}
    (h : outer ++ x :: inner = outer' ++ y :: inner') : x = y ∨ x ∈ inner' ∨ y ∈ inner := by
  induction outer generalizing outer' with
  | nil =>
    cases outer' with
    | nil => exact .inl (List.cons.inj h).1
    | cons a outer' =>
      obtain ⟨-, rfl⟩ := List.cons.inj h
      exact .inr (.inr (by simp))
  | cons a outer ih =>
    cases outer' with
    | nil =>
      obtain ⟨-, rfl⟩ := List.cons.inj h
      exact .inr (.inl (by simp))
    | cons b outer' => exact ih (List.cons.inj h).2

/-! ### Names of units by their roots -/

theorem lookup_unitNames_eq_none {claims : List Claim} {uid : Int} :
    (Conversion.unitNames claims).lookup uid = none ↔ ∀ claim ∈ claims, claim.root.uid ≠ uid := by
  rw [Conversion.unitNames, List.lookup_eq_none_iff, List.forall_mem_map]
  simp only [bne_iff_ne, ne_comm]

/-- A unit has the name of its claim under the number of its root. -/
theorem lookup_unitNames {claims : List Claim}
    (hnodup : (claims.map fun claim => claim.root.uid).Nodup) {claim : Claim}
    (hclaim : claim ∈ claims) :
    (Conversion.unitNames claims).lookup claim.root.uid = some claim.name := by
  cases hlookup : (Conversion.unitNames claims).lookup claim.root.uid with
  | none => exact absurd rfl (lookup_unitNames_eq_none.1 hlookup claim hclaim)
  | some name =>
    obtain ⟨other, hother, huid, rfl⟩ := Layout.exists_claim_of_lookup hlookup
    rw [List.inj_on_of_nodup_map hnodup hother hclaim huid]

namespace Layout

variable {d : Document} (name : Text)

/-- What is known of a document while its templates are emitted. -/
def emitterOf (d : Document) : Emitter := (ofDocument name d).emitter

/-- A node below the body is known as the root of a unit if it is one. -/
theorem units_lookup_eq_none (hd : d.WellFormed) {n : Node} (hn : n ∈ d.body.descendants) :
    (emitterOf name d).units.lookup n.uid = none ↔ n ∉ unitRoots d.body := by
  change (Conversion.unitNames (decompose d.body [name])).lookup n.uid = none ↔ _
  rw [lookup_unitNames_eq_none]
  constructor
  · intro hall hroot
    obtain ⟨claim, hclaim, rfl⟩ := exists_claim_of_mem_unitRoots d.body [name] hroot
    exact hall claim hclaim rfl
  · intro hnot claim hclaim huid
    -- the root of a unit with the number of the node is the node
    have heq := hd.body_distinct.eq_of_uid
      (mem_descendants_of_mem_decompose hd.body_distinct hclaim) hn huid
    exact hnot (heq ▸ mem_unitRoots_of_mem_decompose hclaim)

/-- The root component mounts the units at the top of the body. -/
theorem mounted_lookup_eq_none (hd : d.WellFormed) {child : Node}
    (hchild : child ∈ d.body.children) :
    (mountedNames (decompose d.body [name])).lookup child.uid = none ↔ ¬ child.Claimable := by
  have hdesc := mem_descendants_of_child hchild (mem_subtree_self child)
  rw [mountedNames, lookup_unitNames_eq_none]
  constructor
  · intro hall hclaimable
    obtain ⟨claim, hclaim, rfl⟩ := exists_claim_of_mem_unitRoots d.body [name]
      (mem_unitRoots_of_child hd.body_distinct hchild hclaimable)
    -- the claim of a root at the top is a mounted one
    exact hall claim (List.mem_filter.2
      ⟨hclaim, (mounted_iff_mem_children hd.body_distinct hclaim).2 hchild⟩) rfl
  · intro hnot claim hclaim huid
    have hroot := mem_unitRoots_of_mem_decompose (List.mem_of_mem_filter hclaim)
    have heq := hd.body_distinct.eq_of_uid
      (mem_descendants_of_mem_unitRoots hd.body_distinct hroot) hdesc huid
    exact hnot (heq ▸ claimable_of_mem_unitRoots hd.body_distinct hroot)

/-! ### Slots -/

/-- A slot writes nothing but a text or a comment at the top of the body. -/
theorem mem_written_slot_iff (hd : d.WellFormed) {child n : Node}
    (hchild : child ∈ d.body.children) :
    n ∈ Emitter.written
        (slot (emitterOf name d) (mountedNames (decompose d.body [name])) child) ↔
      n = child ∧ child.kind ≠ .element ∧ (emitterOf name d).Shows child.uid child := by
  have hdesc := mem_descendants_of_child hchild (mem_subtree_self child)
  rw [slot]
  cases hlookup : (mountedNames (decompose d.body [name])).lookup child.uid with
  | some unit =>
    -- only the root of a unit is mounted, and that is an element
    have hclaimable : child.Claimable := by
      by_contra hnot
      rw [(mounted_lookup_eq_none name hd hchild).2 hnot] at hlookup
      cases hlookup
    constructor
    · intro hmem
      cases hmem
    · rintro ⟨-, hkind, -⟩
      exact absurd hclaimable.element hkind
  | none =>
    by_cases helement : child.isElement
    · simp only [if_pos helement]
      constructor
      · intro hmem
        cases hmem
      · rintro ⟨-, hkind, -⟩
        exact absurd (of_decide_eq_true helement) hkind
    · have hkind : child.kind ≠ .element := fun h => helement (decide_eq_true h)
      simp only [if_neg helement]
      rw [Emitter.mem_written_pieces_iff]
      constructor
      · rintro ⟨hleads, hshows⟩
        rcases leadsBy_iff.1 hleads with rfl | ⟨hpasses, -⟩
        · exact ⟨rfl, hkind, hshows⟩
        · exact absurd hpasses.element hkind
      · rintro ⟨rfl, -, hshows⟩
        exact ⟨.self n, hshows⟩

theorem written_slot_sublist (hd : d.WellFormed) {child : Node} (hchild : child ∈ d.body.children) :
    (Emitter.written
      (slot (emitterOf name d) (mountedNames (decompose d.body [name])) child)).Sublist
      [child] := by
  rw [slot]
  split
  · exact List.nil_sublist _
  · split
    · exact List.nil_sublist _
    · next helement =>
      have hkind : child.kind ≠ .element := fun h => helement (decide_eq_true h)
      have hnone := ((hd.tidy_of_descendant
        (mem_descendants_of_child hchild (mem_subtree_self child))).no_children hkind)
      -- a text or a comment has nothing below it
      have hsub := Emitter.written_sublist (emitterOf name d) child.uid child
      rwa [subtree_eq_cons, descendants, hnone] at hsub

/-! ### Owners -/

/-- What a unit writes lies on a path below its root, on which nothing is left out and no other
unit has its root after that of the unit. -/
theorem exists_path_of_written (hd : d.WellFormed) {r n : Node} (hr : r ∈ unitRoots d.body)
    (hn : n ∈ Emitter.written ((emitterOf name d).pieces r.uid r)) :
    ∃ path outer inner, Descends d.body (path ++ [n]) ∧ path ++ [n] = outer ++ r :: inner ∧
      (∀ m ∈ inner, m ∉ unitRoots d.body) ∧ ∀ m ∈ path ++ [n], ¬ m.isDropped := by
  obtain ⟨⟨child, hchild, hreach⟩, hclaimable, -⟩ := (mem_unitRoots_iff hd.body_distinct).1 hr
  obtain ⟨hleads, hshows⟩ := Emitter.mem_written_pieces_iff.1 hn
  -- the path to the node is the path to the root and the path from the root to the node
  obtain ⟨above, outer, habove, houter, hsearched⟩ := hreach.exists_path
  obtain ⟨below, passed, hbelow, hpassed, hpasses⟩ := hleads.exists_path
  have htop : Descends d.body (outer ++ [r]) := houter ▸ descends_cons.2 ⟨hchild, habove⟩
  have hwhole : Descends d.body (outer ++ r :: below) := descends_append_cons.2 ⟨htop, hbelow⟩
  have hsplit : (outer ++ passed) ++ [n] = outer ++ r :: below := by
    rw [List.append_assoc, ← hpassed]
  have hbody : ∀ m ∈ outer ++ r :: below, m ∈ d.body.descendants :=
    fun m hm => hwhole.mem_descendants hm
  have hnbody : n ∈ d.body.descendants := hbody n (hsplit ▸ by simp)
  have hrdistinct := hd.body_distinct.distinctWith_of_mem
    (mem_descendants_of_mem_unitRoots hd.body_distinct hr)
  refine ⟨outer ++ passed, outer, below, hsplit ▸ hwhole, hsplit, ?_, ?_⟩
  · intro m hm
    have hmbody := hbody m (List.mem_append_right _ (List.mem_cons_of_mem _ hm))
    -- below the root, a node has another number than the root
    have hne : m.uid ≠ r.uid := by
      intro huid
      have heq := hd.body_distinct.eq_of_uid hmbody
        (mem_descendants_of_mem_unitRoots hd.body_distinct hr) huid
      exact hrdistinct.not_mem_descendants (heq ▸ hbelow.mem_descendants hm)
    have hunit : m.kind = .element → (emitterOf name d).unitAt r.uid m.uid = none := by
      have hmem : m ∈ passed ++ [n] := hpassed ▸ List.mem_cons_of_mem _ hm
      rcases List.mem_append.1 hmem with hm | hm
      · exact fun _ => (hpasses m hm).unit
      · exact List.mem_singleton.1 hm ▸ hshows.unit
    intro hroot
    have hlookup := hunit (claimable_of_mem_unitRoots hd.body_distinct hroot).element
    rw [Emitter.unitAt, if_neg hne] at hlookup
    exact (units_lookup_eq_none name hd hmbody).1 hlookup hroot
  · intro m hm hdropped
    rw [List.append_assoc, ← hpassed] at hm
    rcases List.mem_append.1 hm with hm | hm
    · exact (hsearched m hm).kept hdropped
    · rw [hpassed] at hm
      rcases List.mem_append.1 hm with hm | hm
      · exact (hpasses m hm).kept hdropped
      · obtain rfl := List.mem_singleton.1 hm
        by_cases helement : m.kind = .element
        · exact hshows.kept helement hdropped
        · rw [isDropped, (hd.tidy_of_descendant hnbody).no_tag helement] at hdropped
          cases hdropped

/-- Two units do not write the same node. -/
theorem eq_root_of_written (hd : d.WellFormed) {r s n m : Node} (hr : r ∈ unitRoots d.body)
    (hs : s ∈ unitRoots d.body) (hn : n ∈ Emitter.written ((emitterOf name d).pieces r.uid r))
    (hm : m ∈ Emitter.written ((emitterOf name d).pieces s.uid s)) (huid : n.uid = m.uid) :
    r = s := by
  obtain ⟨path, outer, inner, hpath, hsplit, hinner, -⟩ := exists_path_of_written name hd hr hn
  obtain ⟨path', outer', inner', hpath', hsplit', hinner', -⟩ :=
    exists_path_of_written name hd hs hm
  obtain ⟨rfl, rfl⟩ := Descends.eq_of_uid hd.body_distinct hpath hpath' huid
  -- both roots stand on the one path to the node, where none comes after the other
  rcases split_cases (hsplit.symm.trans hsplit') with heq | hmem | hmem
  · exact heq
  · exact absurd hr (hinner' r hmem)
  · exact absurd hs (hinner s hmem)

/-- A unit does not write what a slot writes. -/
theorem not_written_of_slot (hd : d.WellFormed) {r n child : Node} (hr : r ∈ unitRoots d.body)
    (hchild : child ∈ d.body.children) (hkind : child.kind ≠ .element)
    (hn : n ∈ Emitter.written ((emitterOf name d).pieces r.uid r)) : n.uid ≠ child.uid := by
  intro huid
  obtain ⟨path, outer, inner, hpath, hsplit, -⟩ := exists_path_of_written name hd hr hn
  -- the path to a node at the top is the node alone, which would be the root
  have htop : Descends d.body ([] ++ [child]) := by simpa using hchild
  obtain ⟨rfl, rfl⟩ := Descends.eq_of_uid hd.body_distinct hpath htop huid
  have hmem : r ∈ [] ++ [n] := hsplit ▸ by simp
  obtain rfl : r = n := by simpa using hmem
  exact hkind (claimable_of_mem_unitRoots hd.body_distinct hr).element

/-! ### No node is written twice -/

theorem written_eq (d : Document) :
    (ofDocument name d).written =
      ((decompose d.body [name]).flatMap fun claim =>
        Emitter.written ((emitterOf name d).pieces claim.root.uid claim.root)) ++
      d.body.children.flatMap fun child =>
        Emitter.written
          (slot (emitterOf name d) (mountedNames (decompose d.body [name])) child) := by
  have hslots : (ofDocument name d).slots =
      d.body.children.map (slot (emitterOf name d) (mountedNames (decompose d.body [name]))) := rfl
  rw [written, pieces, Emitter.written, List.filterMap_append, List.filterMap_flatMap,
    List.filterMap_flatten, ← List.flatMap_def, hslots, List.flatMap_map]
  rfl

/-- A node is written by a unit or by its own slot. -/
theorem mem_written_iff (hd : d.WellFormed) {n : Node} :
    n ∈ (ofDocument name d).written ↔
      (∃ r ∈ unitRoots d.body, n ∈ Emitter.written ((emitterOf name d).pieces r.uid r)) ∨
        n ∈ d.body.children ∧ n.kind ≠ .element ∧ (emitterOf name d).Shows n.uid n := by
  -- the units are those of the roots, and the slots those of the children of the body
  rw [written_eq, List.mem_append, List.mem_flatMap, List.mem_flatMap]
  refine or_congr ?_ ?_
  · constructor
    · rintro ⟨claim, hclaim, hn⟩
      exact ⟨claim.root, mem_unitRoots_of_mem_decompose hclaim, hn⟩
    · rintro ⟨r, hr, hn⟩
      obtain ⟨claim, hclaim, rfl⟩ := exists_claim_of_mem_unitRoots d.body [name] hr
      exact ⟨claim, hclaim, hn⟩
  · constructor
    · rintro ⟨child, hchild, hn⟩
      obtain ⟨rfl, hkind, hshows⟩ := (mem_written_slot_iff name hd hchild).1 hn
      exact ⟨hchild, hkind, hshows⟩
    · rintro ⟨hn, hkind, hshows⟩
      exact ⟨n, hn, (mem_written_slot_iff name hd hn).2 ⟨rfl, hkind, hshows⟩⟩

/-- No node is written twice. -/
theorem nodup_written (hd : d.WellFormed) : ((ofDocument name d).written.map uid).Nodup := by
  rw [written_eq, List.map_append]
  refine List.Nodup.append ?_ ?_ ?_
  · rw [List.map_flatMap, List.nodup_flatMap]
    constructor
    · intro claim hclaim
      have hwith := hd.body_distinct.distinctWith_of_mem
        (mem_descendants_of_mem_decompose hd.body_distinct hclaim)
      exact ((Emitter.written_sublist _ _ _).map uid).nodup hwith
    · -- two units with a node in common would have the same root
      have hnodup := nodup_uids_decompose [name] hd.body_distinct
      rw [List.Nodup, List.pairwise_map] at hnodup
      refine (List.Pairwise.and_mem.1 hnodup).imp ?_
      rintro claim other ⟨hclaim, hother, hne⟩ u hu hu'
      obtain ⟨n, hn, rfl⟩ := List.mem_map.1 hu
      obtain ⟨m, hm, huid⟩ := List.mem_map.1 hu'
      exact hne (congrArg uid (eq_root_of_written name hd (mem_unitRoots_of_mem_decompose hclaim)
        (mem_unitRoots_of_mem_decompose hother) hn hm huid.symm))
  · rw [List.map_flatMap]
    refine List.Sublist.nodup ?_ hd.body_distinct.nodup_children
    rw [List.map_eq_flatMap]
    exact List.Sublist.flatMap_right _ fun child hchild =>
      (written_slot_sublist name hd hchild).map uid
  · intro u hu hu'
    obtain ⟨n, hn, rfl⟩ := List.mem_map.1 hu
    obtain ⟨m, hm, huid⟩ := List.mem_map.1 hu'
    obtain ⟨claim, hclaim, hn⟩ := List.mem_flatMap.1 hn
    obtain ⟨child, hchild, hm⟩ := List.mem_flatMap.1 hm
    obtain ⟨rfl, hkind, -⟩ := (mem_written_slot_iff name hd hchild).1 hm
    exact not_written_of_slot name hd (mem_unitRoots_of_mem_decompose hclaim) hchild hkind hn
      huid.symm

/-! ### What is kept is written -/

/-- On a path, every node before the last one is an element. -/
theorem element_of_descends (hd : d.WellFormed) {outer inner : List Node} {m : Node}
    (hpath : Descends d.body (outer ++ m :: inner)) (hinner : inner ≠ []) : m.kind = .element := by
  by_contra hkind
  have hmem : m ∈ d.body.descendants := hpath.mem_descendants (by simp)
  have hnone := (hd.tidy_of_descendant hmem).no_children hkind
  obtain ⟨-, hbelow⟩ := descends_append_cons.1 hpath
  cases inner with
  | nil => exact hinner rfl
  | cons child inner =>
    have hchild := (descends_cons.1 hbelow).1
    rw [hnone] at hchild
    cases hchild

theorem unitAt_eq_none {e : Emitter} {r m : Node} {inner : List Node}
    (hinner : ∀ b ∈ inner, e.units.lookup b.uid = none) (hm : m ∈ r :: inner) :
    e.unitAt r.uid m.uid = none := by
  rw [Emitter.unitAt]
  split
  · rfl
  · next hne =>
    rcases List.mem_cons.1 hm with rfl | hm
    · exact absurd rfl hne
    · exact hinner m hm

/-- The root of a unit leads to the end of a path through it, if no other unit has its root after it
on the path, nothing on the path is left out, and the path is not cut. -/
theorem leadsBy_of_kept (hd : d.WellFormed) {path outer inner : List Node} {r n : Node}
    (hpath : Descends d.body (path ++ [n])) (hsplit : path ++ [n] = outer ++ r :: inner)
    (hinner : ∀ b ∈ inner, (emitterOf name d).units.lookup b.uid = none)
    (hkept : ∀ m ∈ path ++ [n], ¬ m.isDropped) (hcut : ¬ (emitterOf name d).IsCut (path ++ [n])) :
    LeadsBy ((emitterOf name d).Passes r.uid) r n := by
  obtain ⟨passed, hpassed⟩ := exists_concat_of_split hsplit
  have hbelow : Descends r inner := by
    rw [hsplit] at hpath
    exact (descends_append_cons.1 hpath).2
  refine leadsBy_of_path hbelow hpassed fun m hm => ?_
  have hm' : m ∈ r :: inner := hpassed ▸ List.mem_append_left _ hm
  obtain ⟨before, after, rfl⟩ := List.append_of_mem hm
  have hwhole : path ++ [n] = (outer ++ before) ++ m :: (after ++ [n]) := by
    rw [hsplit, hpassed]
    simp
  -- what comes after `m` comes after the root
  have hafter : ∀ b ∈ after ++ [n], b ∈ inner := by
    intro b hb
    cases before with
    | nil =>
      obtain ⟨-, rfl⟩ := List.cons.inj hpassed
      exact hb
    | cons first before =>
      obtain ⟨-, rfl⟩ := List.cons.inj hpassed
      simp only [List.append_eq, List.append_assoc, List.cons_append, List.mem_append,
        List.mem_cons] at hb ⊢
      exact .inr (.inr hb)
  refine ⟨element_of_descends hd (hwhole ▸ hpath) (by simp), unitAt_eq_none hinner hm',
    hkept m (hwhole ▸ by simp), fun hchildless => hcut ?_⟩
  exact ⟨outer ++ before, m, after ++ [n], hwhole, by simp, fun b hb => hinner b (hafter b hb),
    hchildless⟩

/-- A node is written if nothing on the path to it is left out, the path is not cut, and it is no
blank text. -/
theorem mem_written_of_kept (hd : d.WellFormed) {path : List Node} {n : Node}
    (hpath : Descends d.body (path ++ [n])) (hkept : ∀ m ∈ path ++ [n], ¬ m.isDropped)
    (hcut : ¬ (emitterOf name d).IsCut (path ++ [n]))
    (htext : n.kind = .text → ¬ (Text.trim n.content).isEmpty) :
    n ∈ (ofDocument name d).written := by
  rw [mem_written_iff name hd]
  by_cases hroots : ∃ r ∈ path ++ [n], r ∈ unitRoots d.body
  · -- the innermost root on the path owns the node
    obtain ⟨outer, r, inner, hsplit, hr, hinner⟩ := exists_last_split hroots
    have hlookup : ∀ m ∈ inner, (emitterOf name d).units.lookup m.uid = none := by
      intro m hm
      have hmem : m ∈ path ++ [n] := hsplit ▸ List.mem_append_right _ (List.mem_cons_of_mem _ hm)
      exact (units_lookup_eq_none name hd (hpath.mem_descendants hmem)).2 (hinner m hm)
    have hleads := leadsBy_of_kept name hd hpath hsplit hlookup hkept hcut
    obtain ⟨passed, hpassed⟩ := exists_concat_of_split hsplit
    have hn : n ∈ r :: inner := hpassed ▸ List.mem_append_right _ List.mem_cons_self
    refine .inl ⟨r, hr, Emitter.mem_written_pieces_iff.2 ⟨hleads, ?_, ?_, htext⟩⟩
    · exact fun _ => unitAt_eq_none hlookup hn
    · exact fun _ => hkept n (by simp)
  · -- without a root on the path, its first node cannot be claimed and is the node itself
    have hfirst : ∀ m ∈ path ++ [n], m ∈ d.body.children → m.kind ≠ .element :=
      fun m hm hchild hkind => hroots
        ⟨m, hm, mem_unitRoots_of_child hd.body_distinct hchild ⟨hkind, hkept m hm⟩⟩
    cases path with
    | nil =>
      have hchild : n ∈ d.body.children := (descends_cons.1 hpath).1
      have hkind := hfirst n (by simp) hchild
      exact .inr ⟨hchild, hkind, fun h => absurd h hkind, fun h => absurd h hkind, htext⟩
    | cons first path =>
      have hchild : first ∈ d.body.children := (descends_cons.1 hpath).1
      have hwhole : Descends d.body ([] ++ first :: (path ++ [n])) := hpath
      have hkind : first.kind = .element := element_of_descends hd hwhole (by simp)
      exact absurd hkind (hfirst first (by simp) hchild)

/-- Nothing is written that is left out, or inside something that is left out. -/
theorem not_mem_written_of_dropped (hd : d.WellFormed) {path : List Node} {n : Node}
    (hpath : Descends d.body (path ++ [n])) (hdropped : ∃ m ∈ path ++ [n], m.isDropped) :
    n.uid ∉ (ofDocument name d).written.map uid := by
  intro hmem
  obtain ⟨w, hw, huid⟩ := List.mem_map.1 hmem
  obtain ⟨m, hm, hdrop⟩ := hdropped
  -- the node that is written has the number and so the path of the dropped one
  rcases (mem_written_iff name hd).1 hw with ⟨r, hr, hw⟩ | ⟨hchild, hkind, -⟩
  · obtain ⟨path', outer, inner, hpath', -, -, hkept⟩ := exists_path_of_written name hd hr hw
    obtain ⟨rfl, rfl⟩ := Descends.eq_of_uid hd.body_distinct hpath' hpath huid
    exact hkept m hm hdrop
  · have htop : Descends d.body ([] ++ [w]) := by simpa using hchild
    obtain ⟨rfl, rfl⟩ := Descends.eq_of_uid hd.body_distinct htop hpath huid
    obtain rfl : m = w := by simpa using hm
    rw [isDropped, (hd.tidy_of_descendant (htop.mem_descendants (by simp))).no_tag hkind] at hdrop
    cases hdrop

theorem mem_descendants_of_written (hd : d.WellFormed) {n : Node}
    (hn : n ∈ (ofDocument name d).written) : n ∈ d.body.descendants := by
  rcases (mem_written_iff name hd).1 hn with ⟨r, hr, hn⟩ | ⟨hchild, -⟩
  · obtain ⟨path, -, -, hpath, -⟩ := exists_path_of_written name hd hr hn
    exact hpath.mem_descendants (by simp)
  · exact mem_descendants_of_child hchild (mem_subtree_self n)

/-- Blank text is not written. -/
theorem not_mem_written_of_blank (hd : d.WellFormed) {n : Node} (hn : n ∈ d.body.descendants)
    (hkind : n.kind = .text) (hblank : (Text.trim n.content).isEmpty) :
    n.uid ∉ (ofDocument name d).written.map uid := by
  intro hmem
  obtain ⟨w, hw, huid⟩ := List.mem_map.1 hmem
  obtain rfl := hd.body_distinct.eq_of_uid (mem_descendants_of_written name hd hw) hn huid
  rcases (mem_written_iff name hd).1 hw with ⟨r, -, hw⟩ | ⟨-, -, hshows⟩
  · exact (Emitter.mem_written_pieces_iff.1 hw).2.text hkind hblank
  · exact hshows.text hkind hblank

/-- How often a component writes the node with a number. -/
def timesWritten (l : Layout) (uid : Int) : Nat := (l.written.map Node.uid).count uid

/-- A component covers a body: what it writes of the nodes below it. A path to a node starts at the
top of the body and ends in the node. -/
structure Covers (l : Layout) (body : Node) : Prop where
  /-- No node is written twice. -/
  at_most_once : ∀ path node, Descends body (path ++ [node]) → l.timesWritten node.uid ≤ 1
  /-- Nothing that is left out is written, nor anything below it. -/
  dropped : ∀ path node, Descends body (path ++ [node]) → (∃ m ∈ path ++ [node], m.isDropped) →
    l.timesWritten node.uid = 0
  /-- Everything else is written once, blank text apart, unless an element without content cuts it
  off from the root of its unit. -/
  kept : ∀ path node, Descends body (path ++ [node]) → (∀ m ∈ path ++ [node], ¬ m.isDropped) →
    ¬ l.emitter.IsCut (path ++ [node]) →
    l.timesWritten node.uid =
      if node.kind = .text ∧ (Text.trim node.content).isEmpty then 0 else 1

/-- The layout of a document covers its body. -/
theorem covers_ofDocument (hd : d.WellFormed) : (ofDocument name d).Covers d.body := by
  have hnodup := nodup_written name hd
  refine ⟨fun path node hpath => ?_, fun path node hpath hdropped => ?_,
    fun path node hpath hkept hcut => ?_⟩
  · exact List.nodup_iff_count_le_one.1 hnodup node.uid
  · exact List.count_eq_zero.2 (not_mem_written_of_dropped name hd hpath hdropped)
  · split
    next hblank =>
      have hmem : node ∈ d.body.descendants := hpath.mem_descendants (by simp)
      exact List.count_eq_zero.2 (not_mem_written_of_blank name hd hmem hblank.1 hblank.2)
    next hshown =>
      have hmem := mem_written_of_kept name hd hpath hkept hcut fun hkind hempty =>
        hshown ⟨hkind, hempty⟩
      exact List.count_eq_one_of_mem hnodup (List.mem_map_of_mem hmem)

end Layout

namespace Conversion

/-- A conversion renders a layout that covers the body of the document, and its units stand in the
order of the document. -/
theorem writes_each_node_once {settings : Settings} {markup artifact override : Text}
    {theme : Theme} {c : Conversion}
    (h : convert settings markup artifact override theme = .ok c) :
    ∃ document, Document.parse settings.slash markup = .ok document ∧
      c.Follows (Layout.ofDocument c.name document) ∧
      (Layout.ofDocument c.name document).Covers document.body ∧
      (c.units.map ComponentUnit.rootUid).Pairwise (· < ·) := by
  obtain ⟨document, hparse, hfollows⟩ := follows_of_convert h
  have hd := Document.wellFormed_of_parse hparse
  refine ⟨document, hparse, hfollows, Layout.covers_ofDocument c.name hd, ?_⟩
  rw [hfollows.units.map_eq_map fun _ _ hunit => hunit.rootUid]
  exact pairwise_uids_decompose [c.name] hd.body_distinct

/-- A paragraph in a block, converted with the settings that hold at first. -/
theorem writes_each_node_once_paragraph :
    ∃ c document,
      convert Settings.default "<div><p>a</p></div>".toList [] [] Theme.default = .ok c ∧
      Document.parse .closes "<div><p>a</p></div>".toList = .ok document ∧
      (Layout.ofDocument c.name document).Covers document.body := by
  have hsome : (convert Settings.default "<div><p>a</p></div>".toList [] []
      Theme.default).toOption.isSome := by decide +kernel
  obtain ⟨c, hok⟩ := Except.exists_ok_of_isSome hsome
  obtain ⟨document, hparse, -, hcovers, -⟩ := writes_each_node_once hok
  exact ⟨c, document, hok, hparse, hcovers⟩

end Conversion

end Componentry
