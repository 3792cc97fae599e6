import Componentry.Proofs.Component.Childless
import Componentry.Proofs.Component.Refusal
import Componentry.Proofs.Template.Reference
import Componentry.Proofs.Unit.Naming

/-!
# The use of units

The root component uses the units that it mounts. Every other unit lies inside a unit that is
mounted and is used there, unless a void element or a text area stands above it: then nothing uses
it, though the module declares it.

* `Layout.usesUnits_ofDocument`: how often each unit is used, and where;
* `Conversion.uses_units`: what holds of the units of a conversion.
-/

namespace Componentry

open Node Template

namespace Layout

/-- How often some pieces use the unit of that name. -/
def timesUsed (pieces : List Piece) (name : Text) : Nat :=
  ((Emitter.uses pieces).map Prod.snd).count name

/-- A node of the body is hidden: below the body, a node that hides its children stands above it. -/
def IsHidden (body node : Node) : Prop :=
  ∃ path, Descends body (path ++ [node]) ∧ ∃ cover ∈ path, cover.HidesChildren

/-- How a component uses its units. -/
structure UsesUnits (l : Layout) (body : Node) : Prop where
  /-- The root component uses a mounted unit once, and no other unit uses it. -/
  mounted : ∀ claim ∈ l.claims, claim.mounted → timesUsed l.slots.flatten claim.name = 1 ∧
    ∀ other ∈ l.claims, timesUsed (l.body other) claim.name = 0
  /-- A unit that is not mounted is used once by one mounted unit, unless its root is hidden, and by
  nothing else. -/
  nested : ∀ claim ∈ l.claims, ¬ claim.mounted → timesUsed l.slots.flatten claim.name = 0 ∧
    ∃ owner ∈ l.claims, owner.mounted ∧
      (¬ IsHidden body claim.root → timesUsed (l.body owner) claim.name = 1) ∧
      (IsHidden body claim.root → timesUsed (l.body owner) claim.name = 0) ∧
      ∀ other ∈ l.claims, other ≠ owner → timesUsed (l.body other) claim.name = 0

variable {d : Document} (name : Text)

/-! ### Counting uses -/

/-- Pieces that use no root twice use a name once if they use its unit at all. -/
theorem timesUsed_eq {pieces : List Piece} (hpieces : pieces ⊆ (ofDocument name d).pieces)
    (hnodup : ((Emitter.uses pieces).map Prod.fst).Nodup) {claim : Claim}
    (hclaim : claim ∈ decompose d.body [name]) :
    timesUsed pieces claim.name =
      if (claim.root.uid, claim.name) ∈ Emitter.uses pieces then 1 else 0 := by
  have hknown : ∀ use ∈ Emitter.uses pieces,
      ∃ other ∈ decompose d.body [name], (other.root.uid, other.name) = use := by
    rintro ⟨uid, unit⟩ huse
    obtain ⟨other, hother, rfl, rfl⟩ :=
      exists_claim_of_reference (hpieces (Emitter.mem_uses.1 huse))
    exact ⟨other, hother, rfl⟩
  -- a name is that of one claim only
  have hclaims := nodup_names_decompose d.body [name]
  have hnames : ((Emitter.uses pieces).map Prod.snd).Nodup := by
    refine hnodup.of_map.map_on fun use huse other hother hname => ?_
    obtain ⟨first, hfirst, rfl⟩ := hknown use huse
    obtain ⟨second, hsecond, rfl⟩ := hknown other hother
    rw [List.inj_on_of_nodup_map hclaims hfirst hsecond hname]
  split
  next hmem => exact List.count_eq_one_of_mem hnames (List.mem_map_of_mem hmem)
  next hnot =>
    refine List.count_eq_zero.2 fun hmem => hnot ?_
    obtain ⟨use, huse, hname⟩ := List.mem_map.1 hmem
    obtain ⟨other, hother, rfl⟩ := hknown use huse
    rwa [List.inj_on_of_nodup_map hclaims hother hclaim hname] at huse

/-! ### Uses by units -/

theorem lookup_claim (hd : d.WellFormed) {claim : Claim} (h : claim ∈ decompose d.body [name]) :
    (emitterOf name d).units.lookup claim.root.uid = some claim.name :=
  lookup_unitNames (nodup_uids_decompose [name] hd.body_distinct) h

/-- A unit uses those whose roots emitting gets to from its own root. -/
theorem mem_uses_body_iff (hd : d.WellFormed) {other claim : Claim}
    (hother : other ∈ decompose d.body [name]) (hclaim : claim ∈ decompose d.body [name]) :
    (claim.root.uid, claim.name) ∈ Emitter.uses ((ofDocument name d).body other) ↔
      claim.root ≠ other.root ∧
        ∃ path, Descends other.root (path ++ [claim.root]) ∧
          ∀ m ∈ other.root :: path, (emitterOf name d).Passes other.root.uid m := by
  have hdesc := mem_descendants_of_mem_decompose hd.body_distinct hclaim
  have hdesc' := mem_descendants_of_mem_decompose hd.body_distinct hother
  rw [body, Emitter.mem_uses_iff]
  constructor
  · rintro ⟨n, hleads, -, huid, hunit⟩
    -- what has the number of the root is the root
    have hn : n ∈ d.body.descendants := by
      rcases mem_subtree_iff.1 hleads.mem_subtree with rfl | hbelow
      · exact hdesc'
      · exact descendants_subset_of_mem (mem_subtree_iff.2 (.inr hdesc')) hbelow
    obtain rfl := hd.body_distinct.eq_of_uid hn hdesc huid
    have hne : claim.root ≠ other.root := fun heq => by
      rw [Emitter.unitAt, if_pos (congrArg uid heq)] at hunit
      cases hunit
    exact ⟨hne, (leadsBy_iff_exists_path hne).1 hleads⟩
  · rintro ⟨hne, hpath⟩
    have hclaimable := claimable_of_mem_unitRoots hd.body_distinct
      (mem_unitRoots_of_mem_decompose hclaim)
    refine ⟨claim.root, (leadsBy_iff_exists_path hne).2 hpath, hclaimable.element, rfl, ?_⟩
    have huid : claim.root.uid ≠ other.root.uid := fun huid =>
      hne (hd.body_distinct.eq_of_uid hdesc hdesc' huid)
    rw [Emitter.unitAt, if_neg huid]
    exact lookup_claim name hd hclaim

/-- The root of a unit that is used lies below that of the unit that uses it. -/
theorem exists_path_of_use (hd : d.WellFormed) {other claim : Claim}
    (hother : other ∈ decompose d.body [name]) (hclaim : claim ∈ decompose d.body [name])
    (huse : (claim.root.uid, claim.name) ∈ Emitter.uses ((ofDocument name d).body other)) :
    ∃ outer inner, Descends d.body ((outer ++ other.root :: inner) ++ [claim.root]) := by
  obtain ⟨-, inner, hinner, -⟩ := (mem_uses_body_iff name hd hother hclaim).1 huse
  obtain ⟨outer, houter⟩ :=
    mem_descendants_iff.1 (mem_descendants_of_mem_decompose hd.body_distinct hother)
  exact ⟨outer, inner, houter.append hinner⟩

/-- No unit uses a mounted one, whose root is at the top of the body. -/
theorem not_mem_uses_body_of_mounted (hd : d.WellFormed) {other claim : Claim}
    (hother : other ∈ decompose d.body [name]) (hclaim : claim ∈ decompose d.body [name])
    (hmounted : claim.mounted) :
    (claim.root.uid, claim.name) ∉ Emitter.uses ((ofDocument name d).body other) := by
  intro huse
  obtain ⟨outer, inner, hpath⟩ := exists_path_of_use name hd hother hclaim huse
  exact hpath.not_mem_children hd.body_distinct (by simp)
    ((mounted_iff_mem_children hd.body_distinct hclaim).1 hmounted)

/-- `owner` is the mounted unit with the root of the unit `claim` inside; `path` leads from the one
root to the other. -/
structure Owns (body : Node) (owner claim : Claim) (path : List Node) : Prop where
  /-- The owner is another unit. -/
  apart : claim.root ≠ owner.root
  /-- The path starts at the top of the body. -/
  descends : Descends body (owner.root :: path ++ [claim.root])
  /-- The search for landmarks has gone on below every node on the way. -/
  searched : ∀ m ∈ owner.root :: path, m.Searched
  /-- No other unit has its root on the way. -/
  plain : ∀ m ∈ path, m ∉ unitRoots body

/-- A unit that is not mounted has an owner. -/
theorem exists_owner (hd : d.WellFormed) {claim : Claim} (hclaim : claim ∈ decompose d.body [name])
    (hnested : ¬ claim.mounted) :
    ∃ owner ∈ decompose d.body [name], owner.mounted ∧ ∃ path, Owns d.body owner claim path := by
  have hbelow : claim.root ∉ d.body.children := fun h =>
    hnested ((mounted_iff_mem_children hd.body_distinct hclaim).2 h)
  obtain ⟨⟨child, hchild, hleads⟩, -, -⟩ :=
    (mem_unitRoots_iff hd.body_distinct).1 (mem_unitRoots_of_mem_decompose hclaim)
  have hne : claim.root ≠ child := fun heq => hbelow (heq ▸ hchild)
  obtain ⟨path, hpath, hsearched⟩ := (leadsBy_iff_exists_path hne).1 hleads
  -- the child of the body above the root is searched, and so it is the root of a unit itself
  have hclaimable : child.Claimable := (hsearched child List.mem_cons_self).claimable
  obtain ⟨owner, howner, rfl⟩ := exists_claim_of_mem_unitRoots d.body [name]
    (mem_unitRoots_of_child hd.body_distinct hchild hclaimable)
  have hwhole : Descends d.body (owner.root :: path ++ [claim.root]) :=
    descends_cons.2 ⟨hchild, hpath⟩
  have hmounted := (mounted_iff_mem_children hd.body_distinct howner).2 hchild
  refine ⟨owner, howner, hmounted, path, hne, hwhole, hsearched, fun m hm hmroot => ?_⟩
  -- what is below a child of the body is claimed only if it is a landmark
  obtain ⟨-, -, hmark | htop⟩ := (mem_unitRoots_iff hd.body_distinct).1 hmroot
  · exact (hsearched m (List.mem_cons_of_mem _ hm)).plain hmark
  · obtain ⟨before, after, rfl⟩ := List.append_of_mem hm
    have habove : Descends d.body ((owner.root :: before) ++ m :: (after ++ [claim.root])) := by
      simpa using hwhole
    exact (descends_append_cons.1 habove).1.not_mem_children hd.body_distinct (by simp) htop

/-- The owner of a unit uses it, unless the root of the unit is hidden. -/
theorem Owns.mem_uses_iff (hd : d.WellFormed) {owner claim : Claim} {path : List Node}
    (h : Owns d.body owner claim path) (howner : owner ∈ decompose d.body [name])
    (hclaim : claim ∈ decompose d.body [name]) :
    (claim.root.uid, claim.name) ∈ Emitter.uses ((ofDocument name d).body owner) ↔
      ¬ IsHidden d.body claim.root := by
  have hpath := descends_cons.1 h.descends
  have hhides := fun m (hm : m ∈ owner.root :: path) =>
    isChildless_iff name hd (h.descends.mem_descendants (List.mem_append_left _ hm))
  rw [mem_uses_body_iff name hd howner hclaim]
  constructor
  · rintro ⟨-, passed, hpassed, hpasses⟩ ⟨above, habove, cover, hmem, hcover⟩
    -- there is only one path to the root
    have hwhole : Descends d.body ((owner.root :: passed) ++ [claim.root]) :=
      descends_cons.2 ⟨hpath.1, hpassed⟩
    obtain ⟨rfl, -⟩ := Descends.eq_of_uid hd.body_distinct habove hwhole rfl
    obtain ⟨heq, -⟩ := Descends.eq_of_uid hd.body_distinct hwhole h.descends rfl
    exact (hpasses cover hmem).content ((hhides cover (heq ▸ hmem)).2 hcover)
  · intro houtside
    have hlookup : ∀ m ∈ path, (emitterOf name d).units.lookup m.uid = none := fun m hm =>
      (units_lookup_eq_none name hd (h.descends.mem_descendants (by simp [hm]))).2 (h.plain m hm)
    refine ⟨h.apart, path, hpath.2, fun m hm => ?_⟩
    exact ⟨(h.searched m hm).element, unitAt_eq_none hlookup hm, (h.searched m hm).kept,
      fun hchildless => houtside ⟨_, h.descends, m, hm, (hhides m hm).1 hchildless⟩⟩

/-- No unit uses one that it does not own. -/
theorem Owns.eq_of_mem_uses (hd : d.WellFormed) {owner other claim : Claim} {path : List Node}
    (h : Owns d.body owner claim path) (howner : owner ∈ decompose d.body [name])
    (hother : other ∈ decompose d.body [name]) (hclaim : claim ∈ decompose d.body [name])
    (huse : (claim.root.uid, claim.name) ∈ Emitter.uses ((ofDocument name d).body other)) :
    other = owner := by
  obtain ⟨outer, inner, hpath⟩ := exists_path_of_use name hd hother hclaim huse
  obtain ⟨heq, -⟩ := Descends.eq_of_uid hd.body_distinct hpath h.descends rfl
  -- the root of the other unit stands on the path from the body to the root
  have hmem : other.root ∈ owner.root :: path := heq ▸ by simp
  rcases List.mem_cons.1 hmem with hroot | hmem
  · exact List.inj_on_of_nodup_map (nodup_uids_decompose [name] hd.body_distinct) hother howner
      (congrArg uid hroot)
  · exact absurd (mem_unitRoots_of_mem_decompose hother) (h.plain _ hmem)

/-! ### Uses by slots -/

/-- The slot of a node uses the unit that is mounted there. -/
theorem uses_slot (e : Emitter) (mounted : List (Int × Text)) (node : Node) :
    Emitter.uses (slot e mounted node) =
      (mounted.lookup node.uid).toList.map fun unit => (node.uid, unit) := by
  rw [slot]
  cases mounted.lookup node.uid with
  | some unit => rfl
  | none =>
    by_cases helement : node.isElement
    · simp only [if_pos helement]
      rfl
    · have hkind : node.kind ≠ .element := fun h => helement (decide_eq_true h)
      simp only [if_neg helement]
      exact Emitter.uses_eq_nil (fun h => absurd h hkind) fun hpasses => hkind hpasses.element

theorem uses_slots (d : Document) :
    Emitter.uses (ofDocument name d).slots.flatten = d.body.children.flatMap fun child =>
      ((mountedNames (decompose d.body [name])).lookup child.uid).toList.map fun unit =>
        (child.uid, unit) := by
  change Emitter.uses (d.body.children.map (slot (emitterOf name d)
    (mountedNames (decompose d.body [name])))).flatten = _
  rw [Emitter.uses, ← List.flatMap_def, List.filterMap_flatMap]
  exact congrArg d.body.children.flatMap (funext fun child => uses_slot ..)

theorem nodup_uses_slots (hd : d.WellFormed) :
    ((Emitter.uses (ofDocument name d).slots.flatten).map Prod.fst).Nodup := by
  rw [uses_slots, List.map_flatMap]
  refine List.Sublist.nodup ?_ hd.body_distinct.nodup_children
  rw [List.map_eq_flatMap]
  refine List.Sublist.flatMap_right _ fun child _ => ?_
  cases (mountedNames (decompose d.body [name])).lookup child.uid with
  | none => exact List.nil_sublist _
  | some unit => exact List.Sublist.refl _

/-- The slots use the mounted units. -/
theorem mem_uses_slots_iff (hd : d.WellFormed) {claim : Claim}
    (hclaim : claim ∈ decompose d.body [name]) :
    (claim.root.uid, claim.name) ∈ Emitter.uses (ofDocument name d).slots.flatten ↔
      claim.mounted := by
  rw [uses_slots, List.mem_flatMap]
  constructor
  · rintro ⟨child, hchild, huse⟩
    obtain ⟨unit, -, heq⟩ := List.mem_map.1 huse
    rw [mounted_of_mem_decompose d.body [name] hclaim, List.contains_iff_mem,
      ← (Prod.mk.inj heq).1]
    exact List.mem_map_of_mem hchild
  · intro hmounted
    refine ⟨claim.root, (mounted_iff_mem_children hd.body_distinct hclaim).1 hmounted, ?_⟩
    have hsub : ((decompose d.body [name]).filter (·.mounted)).Sublist (decompose d.body [name]) :=
      List.filter_sublist
    have hnodup := (hsub.map fun claim => claim.root.uid).nodup
      (nodup_uids_decompose [name] hd.body_distinct)
    rw [mountedNames, lookup_unitNames hnodup (List.mem_filter.2 ⟨hclaim, hmounted⟩)]
    exact List.mem_singleton_self _

/-! ### How often units are used -/

theorem timesUsed_slots (hd : d.WellFormed) {claim : Claim}
    (hclaim : claim ∈ decompose d.body [name]) :
    timesUsed (ofDocument name d).slots.flatten claim.name = if claim.mounted then 1 else 0 := by
  rw [timesUsed_eq name (slots_subset _) (nodup_uses_slots name hd) hclaim]
  exact if_congr (mem_uses_slots_iff name hd hclaim) rfl rfl

theorem timesUsed_body (hd : d.WellFormed) {other claim : Claim}
    (hother : other ∈ decompose d.body [name]) (hclaim : claim ∈ decompose d.body [name]) :
    timesUsed ((ofDocument name d).body other) claim.name =
      if (claim.root.uid, claim.name) ∈ Emitter.uses ((ofDocument name d).body other) then 1
      else 0 := by
  have hdistinct := hd.body_distinct.distinctWith_of_mem
    (mem_descendants_of_mem_decompose hd.body_distinct hother)
  exact timesUsed_eq name (body_subset hother)
    ((Emitter.uses_sublist _ _ _).nodup hdistinct) hclaim

/-- The units of a document are used as they should be, but for those that are hidden. -/
theorem usesUnits_ofDocument (hd : d.WellFormed) : (ofDocument name d).UsesUnits d.body := by
  refine ⟨fun claim hclaim hmounted => ?_, fun claim hclaim hnested => ?_⟩
  · refine ⟨(timesUsed_slots name hd hclaim).trans (if_pos hmounted), fun other hother => ?_⟩
    rw [timesUsed_body name hd hother hclaim]
    exact if_neg (not_mem_uses_body_of_mounted name hd hother hclaim hmounted)
  · refine ⟨(timesUsed_slots name hd hclaim).trans (if_neg hnested), ?_⟩
    obtain ⟨owner, howner, hmounted, path, howns⟩ := exists_owner name hd hclaim hnested
    have huse := howns.mem_uses_iff name hd howner hclaim
    refine ⟨owner, howner, hmounted, fun houtside => ?_, fun hinside => ?_,
      fun other hother hne => ?_⟩
    · rw [timesUsed_body name hd howner hclaim]
      exact if_pos (huse.2 houtside)
    · rw [timesUsed_body name hd howner hclaim]
      exact if_neg fun hmem => huse.1 hmem hinside
    · rw [timesUsed_body name hd hother hclaim]
      exact if_neg fun hmem => hne (howns.eq_of_mem_uses name hd howner hother hclaim hmem)

/-- Nothing uses a hidden unit that is not mounted. -/
theorem UsesUnits.unused {l : Layout} {body : Node} (h : l.UsesUnits body) {claim : Claim}
    (hclaim : claim ∈ l.claims) (hnested : ¬ claim.mounted) (hhidden : IsHidden body claim.root) :
    timesUsed l.slots.flatten claim.name = 0 ∧
      ∀ other ∈ l.claims, timesUsed (l.body other) claim.name = 0 := by
  obtain ⟨hslots, owner, -, -, -, howner, hothers⟩ := h.nested claim hclaim hnested
  refine ⟨hslots, fun other hother => ?_⟩
  by_cases heq : other = owner
  · exact heq ▸ howner hhidden
  · exact hothers other hother heq

/-- A landmark right below a node that hides its children becomes a unit that nothing uses. -/
theorem exists_unused (hd : d.WellFormed) {cover mark : Node} (hcover : cover ∈ d.body.children)
    (hmark : mark ∈ cover.children) (hsearched : cover.Searched) (hclaimable : mark.Claimable)
    (hlandmark : mark.isLandmark) (hhides : cover.HidesChildren) :
    ∃ claim ∈ (ofDocument name d).claims, claim.root = mark ∧
      timesUsed (ofDocument name d).slots.flatten claim.name = 0 ∧
      ∀ other ∈ (ofDocument name d).claims,
        timesUsed ((ofDocument name d).body other) claim.name = 0 := by
  have hpath : Descends d.body ([cover] ++ [mark]) := by simpa using ⟨hcover, hmark⟩
  have hroot : mark ∈ unitRoots d.body := (mem_unitRoots_iff hd.body_distinct).2
    ⟨⟨cover, hcover, .child hsearched hmark (.self mark)⟩, hclaimable, .inl hlandmark⟩
  obtain ⟨claim, hclaim, rfl⟩ := exists_claim_of_mem_unitRoots d.body [name] hroot
  have hnested : ¬ claim.mounted := fun hmounted =>
    hpath.not_mem_children hd.body_distinct (List.cons_ne_nil _ _)
      ((mounted_iff_mem_children hd.body_distinct hclaim).1 hmounted)
  exact ⟨claim, hclaim, rfl, (usesUnits_ofDocument name hd).unused hclaim hnested
    ⟨[cover], hpath, cover, List.mem_cons_self, hhides⟩⟩

end Layout

namespace Conversion

/-- A conversion uses each of its units once, but for those that are hidden. -/
theorem uses_units {settings : Settings} {markup artifact override : Text} {theme : Theme}
    {c : Conversion} (h : convert settings markup artifact override theme = .ok c) :
    ∃ document, Document.parse settings.slash markup = .ok document ∧
      c.Follows (Layout.ofDocument c.name document) ∧
      (Layout.ofDocument c.name document).UsesUnits document.body := by
  obtain ⟨document, hparse, hfollows⟩ := follows_of_convert h
  exact ⟨document, hparse, hfollows,
    Layout.usesUnits_ofDocument c.name (Document.wellFormed_of_parse hparse)⟩

/-- A document whose elements have no attributes is converted. -/
theorem exists_convert_of_bare (settings : Settings) {markup : Text} {document : Document}
    (hparse : Document.parse settings.slash markup = .ok document)
    (hbare : ∀ node ∈ document.body.descendants, node.attributes = [])
    (artifact override : Text) (theme : Theme) :
    ∃ c, convert settings markup artifact override theme = .ok c := by
  refine exists_convert_iff.2 ⟨⟨document, hparse⟩, fun d hd node hnode => ?_⟩
  obtain rfl : document = d := Except.ok.inj (hparse.symm.trans hd)
  have hmem := Layout.mem_descendants_of_written _ (Document.wellFormed_of_parse hparse)
    (Layout.mem_written_of_opening hnode)
  rw [hbare node hmem]
  exact fun pair hpair => absurd hpair List.not_mem_nil

/-- A landmark in a block is used by the unit of the block. -/
theorem uses_units_nested :
    ∃ c document, convert Settings.default "<div><nav>x</nav></div>".toList [] [] Theme.default =
        .ok c ∧
      Document.parse .closes "<div><nav>x</nav></div>".toList = .ok document ∧
      (Layout.ofDocument c.name document).UsesUnits document.body := by
  have hdecide : (Document.parse .closes "<div><nav>x</nav></div>".toList).map
      (fun d => decide (∀ node ∈ d.body.descendants, node.attributes = [])) = .ok true := by
    decide +kernel
  obtain ⟨d, hd, hbare⟩ := Except.map_eq_ok.1 hdecide
  obtain ⟨c, hc⟩ := exists_convert_of_bare Settings.default hd
    (of_decide_eq_true hbare) [] [] Theme.default
  obtain ⟨document, hparse, -, huses⟩ := uses_units hc
  exact ⟨c, document, hc, hparse, huses⟩

/-- A landmark in a text area becomes a unit that nothing uses. -/
theorem landmark_unused_in_textarea :
    ∃ c document,
      convert Settings.default "<textarea><nav>x</nav></textarea>".toList [] [] Theme.default =
        .ok c ∧
      Document.parse .closes "<textarea><nav>x</nav></textarea>".toList = .ok document ∧
      c.Follows (Layout.ofDocument c.name document) ∧
      ∃ claim ∈ (Layout.ofDocument c.name document).claims, claim.root.hasTag "nav" ∧
        Layout.timesUsed (Layout.ofDocument c.name document).slots.flatten claim.name = 0 ∧
        ∀ other ∈ (Layout.ofDocument c.name document).claims,
          Layout.timesUsed ((Layout.ofDocument c.name document).body other) claim.name = 0 := by
  have hdecide : (Document.parse .closes "<textarea><nav>x</nav></textarea>".toList).map
      (fun d => decide ((∀ node ∈ d.body.descendants, node.attributes = []) ∧
        ∃ area ∈ d.body.children, ∃ mark ∈ area.children,
          (area.kind = .element ∧ ¬ area.isDropped ∧ ¬ area.isLandmark) ∧
          area.hasTag "textarea" ∧
          (mark.kind = .element ∧ ¬ mark.isDropped ∧ mark.isLandmark) ∧ mark.hasTag "nav")) =
        .ok true := by
    decide +kernel
  obtain ⟨document, hparse, htrue⟩ := Except.map_eq_ok.1 hdecide
  obtain ⟨hbare, area, harea, mark, hmark, ⟨helement, hkept, hplain⟩, htextarea,
    ⟨hmarkElement, hmarkKept, hlandmark⟩, htag⟩ := of_decide_eq_true htrue
  obtain ⟨c, hc⟩ := exists_convert_of_bare Settings.default hparse hbare [] [] Theme.default
  obtain ⟨d, hd, hfollows⟩ := follows_of_convert hc
  obtain rfl : document = d := Except.ok.inj (hparse.symm.trans hd)
  obtain ⟨claim, hclaim, rfl, hunused⟩ := Layout.exists_unused c.name
    (Document.wellFormed_of_parse hparse) harea hmark ⟨helement, hkept, hplain⟩
    ⟨hmarkElement, hmarkKept⟩ hlandmark (.inr htextarea)
  exact ⟨c, document, hc, hparse, hfollows, claim, hclaim, htag, hunused⟩

end Conversion

end Componentry
