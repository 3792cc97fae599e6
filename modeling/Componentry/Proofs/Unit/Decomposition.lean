import Componentry.Proofs.Markup.Tree
import Componentry.Unit.Decomposition
import Mathlib.Data.List.Flatten

/-!
# The units of a body

The body of a document is claimed in two passes: first the outermost landmarks, at any depth, then
the elements at the top that are no landmarks. In a body whose nodes have numbers of their own the
two passes together claim each root once, and nothing at the top is left out but what is dropped:

* `mem_unitRoots_iff`: which nodes become roots of units;
* `nodup_uids_unitRoots`: no node is claimed twice;
* `perm_roots_decompose`: the units of a body are those of its roots;
* `pairwise_uids_decompose`: they stand in the order of the document.
-/

namespace Componentry

open Node

namespace Node

/-- The search for landmarks goes on below the element `node`. -/
structure Searched (node : Node) : Prop where
  /-- The node is an element. -/
  element : node.kind = .element
  /-- It is not left out. -/
  kept : ¬ node.isDropped
  /-- It is no landmark. -/
  plain : ¬ node.isLandmark

/-- A node can be the root of a unit. -/
structure Claimable (node : Node) : Prop where
  /-- The node is an element. -/
  element : node.kind = .element
  /-- It is not left out. -/
  kept : ¬ node.isDropped

theorem Searched.claimable {node : Node} (h : node.Searched) : node.Claimable :=
  ⟨h.element, h.kept⟩

theorem claimable_iff (node : Node) :
    node.Claimable ↔ ¬ ((!node.isElement || node.isDropped) = true) := by
  simp only [Bool.or_eq_true, Bool.not_eq_true', not_or, isElement, decide_eq_false_iff_not,
    not_not]
  exact ⟨fun h => ⟨h.element, h.kept⟩, fun h => ⟨h.1, h.2⟩⟩

end Node

/-! ### Landmarks -/

theorem landmarksAll_eq_flatMap (nodes : List Node) :
    landmarksAll nodes = nodes.flatMap landmarks := by
  induction nodes with
  | nil => rfl
  | cons node nodes ih => rw [landmarksAll, ih, List.flatMap_cons]

theorem landmarks_eq (node : Node) :
    landmarks node =
      if !node.isElement || node.isDropped then []
      else if node.isLandmark then [node]
      else landmarksAll node.children := by
  cases node
  rfl

theorem landmarks_eq_nil {node : Node} (h : ¬ node.Claimable) : landmarks node = [] := by
  rw [landmarks_eq, if_pos]
  exact not_not.1 fun hnot => h ((claimable_iff node).2 hnot)

theorem landmarks_eq_self {node : Node} (h : node.Claimable) (hmark : node.isLandmark) :
    landmarks node = [node] := by
  rw [landmarks_eq, if_neg ((claimable_iff node).1 h), if_pos hmark]

theorem landmarks_eq_below {node : Node} (h : node.Searched) :
    landmarks node = landmarksAll node.children := by
  rw [landmarks_eq, if_neg ((claimable_iff node).1 h.claimable), if_neg h.plain]

/-- The landmarks of a node are those that are reached without passing a landmark. -/
theorem mem_landmarks_iff {node r : Node} :
    r ∈ landmarks node ↔ LeadsBy Searched node r ∧ r.Claimable ∧ r.isLandmark := by
  induction node using induct with
  | step node ih =>
    rw [leadsBy_iff]
    by_cases hclaim : node.Claimable
    · by_cases hmark : node.isLandmark
      · rw [landmarks_eq_self hclaim hmark, List.mem_singleton]
        constructor
        · rintro rfl
          exact ⟨.inl rfl, hclaim, hmark⟩
        · rintro ⟨rfl | ⟨hsearch, -⟩, -⟩
          · rfl
          · exact absurd hmark hsearch.plain
      · -- the search goes on below the node, which is none of its results
        have hsearch : node.Searched := ⟨hclaim.element, hclaim.kept, hmark⟩
        rw [landmarks_eq_below hsearch, landmarksAll_eq_flatMap, List.mem_flatMap]
        constructor
        · rintro ⟨child, hchild, hmem⟩
          obtain ⟨hleads, hr⟩ := (ih child hchild).1 hmem
          exact ⟨.inr ⟨hsearch, child, hchild, hleads⟩, hr⟩
        · rintro ⟨rfl | ⟨-, child, hchild, hleads⟩, hr⟩
          · exact absurd hr.2 hmark
          · exact ⟨child, hchild, (ih child hchild).2 ⟨hleads, hr⟩⟩
    · rw [landmarks_eq_nil hclaim]
      constructor
      · intro hmem
        cases hmem
      · rintro ⟨rfl | ⟨hsearch, -⟩, hr⟩
        · exact absurd hr.1 hclaim
        · exact absurd hsearch.claimable hclaim

theorem landmarks_sublist (node : Node) : (landmarks node).Sublist node.subtree := by
  induction node using induct with
  | step node ih =>
    rw [subtree_eq_cons]
    by_cases hclaim : node.Claimable
    · by_cases hmark : node.isLandmark
      · rw [landmarks_eq_self hclaim hmark]
        exact (List.nil_sublist _).cons_cons node
      · rw [landmarks_eq_below ⟨hclaim.element, hclaim.kept, hmark⟩, landmarksAll_eq_flatMap,
          descendants, subtreeAll_eq_flatMap]
        exact (List.Sublist.flatMap_right _ ih).cons node
    · rw [landmarks_eq_nil hclaim]
      exact List.nil_sublist _

/-! ### Elements at the top of the body -/

theorem unclaimed_cons_of_not {claimed : List Int} {node : Node} (nodes : List Node)
    (h : ¬ (node.Claimable ∧ node.uid ∉ claimed)) :
    unclaimed claimed (node :: nodes) = unclaimed claimed nodes := by
  rw [unclaimed, if_pos]
  by_contra hnot
  rw [Bool.or_eq_true, not_or] at hnot
  exact h ⟨(claimable_iff node).2 hnot.1, by simpa using hnot.2⟩

theorem unclaimed_cons_of {claimed : List Int} {node : Node} (nodes : List Node)
    (h : node.Claimable) (hnew : node.uid ∉ claimed) :
    unclaimed claimed (node :: nodes) = node :: unclaimed (node.uid :: claimed) nodes := by
  rw [unclaimed, if_neg]
  rw [Bool.or_eq_true, not_or]
  exact ⟨(claimable_iff node).1 h, by simpa using hnew⟩

theorem unclaimed_sublist (claimed : List Int) (nodes : List Node) :
    (unclaimed claimed nodes).Sublist nodes := by
  induction nodes generalizing claimed with
  | nil => exact List.Sublist.refl _
  | cons node nodes ih =>
    by_cases h : node.Claimable ∧ node.uid ∉ claimed
    · rw [unclaimed_cons_of nodes h.1 h.2]
      exact (ih _).cons_cons node
    · rw [unclaimed_cons_of_not nodes h]
      exact (ih _).cons node

/-- Of nodes with numbers of their own, the second pass claims all that can be claimed and have not
been claimed before. -/
theorem mem_unclaimed_iff {claimed : List Int} {nodes : List Node} {r : Node}
    (hnodup : (nodes.map uid).Nodup) :
    r ∈ unclaimed claimed nodes ↔ r ∈ nodes ∧ r.Claimable ∧ r.uid ∉ claimed := by
  induction nodes generalizing claimed with
  | nil => simp [unclaimed]
  | cons node nodes ih =>
    rw [List.map_cons, List.nodup_cons] at hnodup
    by_cases h : node.Claimable ∧ node.uid ∉ claimed
    · rw [unclaimed_cons_of nodes h.1 h.2, List.mem_cons, List.mem_cons, ih hnodup.2]
      constructor
      · rintro (rfl | ⟨hr, hclaim, hnew⟩)
        · exact ⟨.inl rfl, h⟩
        · exact ⟨.inr hr, hclaim, fun hold => hnew (List.mem_cons_of_mem _ hold)⟩
      · rintro ⟨rfl | hr, hclaim, hnew⟩
        · exact .inl rfl
        · -- claiming the first node does not claim a later one, which has another number
          refine .inr ⟨hr, hclaim, fun hold => ?_⟩
          rcases List.mem_cons.1 hold with heq | hold
          · exact hnodup.1 (heq ▸ List.mem_map_of_mem hr)
          · exact hnew hold
    · rw [unclaimed_cons_of_not nodes h, ih hnodup.2, List.mem_cons]
      constructor
      · rintro ⟨hr, hclaim⟩
        exact ⟨.inr hr, hclaim⟩
      · rintro ⟨rfl | hr, hclaim⟩
        · exact absurd hclaim h
        · exact ⟨hr, hclaim⟩

/-! ### The roots of the units -/

section

variable {body : Node}

theorem Node.Distinct.nodup_landmarks (h : body.Distinct) :
    ((landmarksAll body.children).map uid).Nodup := by
  have hsub : (landmarksAll body.children).Sublist body.descendants := by
    rw [landmarksAll_eq_flatMap, descendants, subtreeAll_eq_flatMap]
    exact List.Sublist.flatMap_right _ fun node _ => landmarks_sublist node
  exact (hsub.map uid).nodup h

theorem mem_landmarksAll_iff {r : Node} :
    r ∈ landmarksAll body.children ↔
      (∃ child ∈ body.children, LeadsBy Searched child r) ∧ r.Claimable ∧ r.isLandmark := by
  simp only [landmarksAll_eq_flatMap, List.mem_flatMap, mem_landmarks_iff]
  constructor
  · rintro ⟨child, hchild, hleads, hr⟩
    exact ⟨⟨child, hchild, hleads⟩, hr⟩
  · rintro ⟨⟨child, hchild, hleads⟩, hr⟩
    exact ⟨child, hchild, hleads, hr⟩

/-- The roots of the units are the landmarks that are reached without passing a landmark, and what
can be claimed at the top of the body. -/
theorem mem_unitRoots_iff (h : body.Distinct) {r : Node} :
    r ∈ unitRoots body ↔
      (∃ child ∈ body.children, LeadsBy Searched child r) ∧ r.Claimable ∧
        (r.isLandmark ∨ r ∈ body.children) := by
  rw [unitRoots, List.mem_append, mem_landmarksAll_iff, mem_unclaimed_iff h.nodup_children]
  constructor
  · rintro (⟨hreach, hclaim, hmark⟩ | ⟨htop, hclaim, -⟩)
    · exact ⟨hreach, hclaim, .inl hmark⟩
    · exact ⟨⟨r, htop, .self r⟩, hclaim, .inr htop⟩
  · rintro ⟨hreach, hclaim, hmark | htop⟩
    · exact .inl ⟨hreach, hclaim, hmark⟩
    · by_cases hmark : r.isLandmark
      · exact .inl ⟨hreach, hclaim, hmark⟩
      · refine .inr ⟨htop, hclaim, fun hold => ?_⟩
        obtain ⟨m, hm, huid⟩ := List.mem_map.1 hold
        obtain ⟨⟨child, hchild, hleads⟩, -, hmarked⟩ := mem_landmarksAll_iff.1 hm
        -- a landmark with the number of `r` would be `r` itself
        have hmr : m = r := h.eq_of_uid (mem_descendants_of_child hchild hleads.mem_subtree)
          (mem_descendants_of_child htop (mem_subtree_self r)) huid
        exact hmark (hmr ▸ hmarked)

theorem claimable_of_mem_unitRoots (h : body.Distinct) {r : Node} (hr : r ∈ unitRoots body) :
    r.Claimable :=
  ((mem_unitRoots_iff h).1 hr).2.1

theorem mem_descendants_of_mem_unitRoots (h : body.Distinct) {r : Node}
    (hr : r ∈ unitRoots body) : r ∈ body.descendants := by
  obtain ⟨⟨child, hchild, hleads⟩, -⟩ := (mem_unitRoots_iff h).1 hr
  exact mem_descendants_of_child hchild hleads.mem_subtree

/-- What can be claimed at the top of the body is the root of a unit. -/
theorem mem_unitRoots_of_child (h : body.Distinct) {child : Node} (hchild : child ∈ body.children)
    (hclaim : child.Claimable) : child ∈ unitRoots body :=
  (mem_unitRoots_iff h).2 ⟨⟨child, hchild, .self child⟩, hclaim, .inr hchild⟩

/-- No two units have the same root. -/
theorem nodup_uids_unitRoots (h : body.Distinct) : ((unitRoots body).map uid).Nodup := by
  rw [unitRoots, List.map_append]
  refine List.Nodup.append h.nodup_landmarks
    (((unclaimed_sublist _ _).map uid).nodup h.nodup_children) ?_
  -- the second pass leaves out what the first one has claimed
  intro u hfirst hsecond
  obtain ⟨r, hr, rfl⟩ := List.mem_map.1 hsecond
  exact ((mem_unclaimed_iff h.nodup_children).1 hr).2.2 hfirst

end

/-! ### Claims -/

theorem roots_claims (top : List Int) (taken : List Text) (ordinal : Nat) (roots : List Node) :
    (claims top taken ordinal roots).map Claim.root = roots := by
  induction roots generalizing taken ordinal with
  | nil => rfl
  | cons root roots ih => rw [claims, List.map_cons, ih]

/-- A claim is made for a root, under its number and against the names that are in use then. -/
theorem exists_of_mem_claims {top : List Int} {taken : List Text} {ordinal : Nat}
    {roots : List Node} {claim : Claim} (h : claim ∈ claims top taken ordinal roots) :
    ∃ used number, claim =
      ⟨Naming.unique used (claim.root.unitBaseName ++ Text.ofNat number) "_", claim.root,
        top.contains claim.root.uid⟩ := by
  induction roots generalizing taken ordinal with
  | nil => cases h
  | cons root roots ih =>
    rw [claims] at h
    rcases List.mem_cons.1 h with rfl | h
    · exact ⟨taken, ordinal, rfl⟩
    · exact ih h

theorem mounted_of_mem_claims {top : List Int} {taken : List Text} {ordinal : Nat}
    {roots : List Node} {claim : Claim} (h : claim ∈ claims top taken ordinal roots) :
    claim.mounted = top.contains claim.root.uid := by
  obtain ⟨used, number, hclaim⟩ := exists_of_mem_claims h
  exact congrArg Claim.mounted hclaim

section

variable (body : Node) (reserved : List Text)

/-- The roots of the units of a body, in some order. -/
theorem perm_roots_decompose :
    ((decompose body reserved).map Claim.root).Perm (unitRoots body) := by
  have h := (List.mergeSort_perm
    (claims (body.children.map uid) (reservedNames ++ reserved) 1 (unitRoots body))
    fun a b => a.root.uid ≤ b.root.uid).map Claim.root
  rwa [roots_claims] at h

/-- Every root is that of a unit. -/
theorem exists_claim_of_mem_unitRoots {r : Node} (h : r ∈ unitRoots body) :
    ∃ claim ∈ decompose body reserved, claim.root = r :=
  List.mem_map.1 ((perm_roots_decompose body reserved).mem_iff.2 h)

variable {body reserved} in
theorem mem_unitRoots_of_mem_decompose {claim : Claim} (h : claim ∈ decompose body reserved) :
    claim.root ∈ unitRoots body :=
  (perm_roots_decompose body reserved).mem_iff.1 (List.mem_map_of_mem h)

/-- A unit is mounted if its root is at the top of the body. -/
theorem mounted_of_mem_decompose {claim : Claim} (h : claim ∈ decompose body reserved) :
    claim.mounted = (body.children.map uid).contains claim.root.uid :=
  mounted_of_mem_claims ((List.mergeSort_perm _ _).mem_iff.1 h)

variable {body}

theorem nodup_uids_decompose (h : body.Distinct) :
    ((decompose body reserved).map fun claim => claim.root.uid).Nodup := by
  have hnodup := nodup_uids_unitRoots h
  rw [← ((perm_roots_decompose body reserved).map uid).nodup_iff, List.map_map] at hnodup
  exact hnodup

variable {reserved} in
theorem mem_descendants_of_mem_decompose (h : body.Distinct) {claim : Claim}
    (hclaim : claim ∈ decompose body reserved) : claim.root ∈ body.descendants :=
  mem_descendants_of_mem_unitRoots h (mem_unitRoots_of_mem_decompose hclaim)

variable {reserved} in
/-- The mounted units are those with their roots at the top of the body. -/
theorem mounted_iff_mem_children (h : body.Distinct) {claim : Claim}
    (hclaim : claim ∈ decompose body reserved) : claim.mounted ↔ claim.root ∈ body.children := by
  rw [mounted_of_mem_decompose body reserved hclaim, List.contains_iff_mem, List.mem_map]
  constructor
  · rintro ⟨child, hchild, huid⟩
    -- the child with the number of the root is the root
    have hdesc := mem_descendants_of_child hchild (mem_subtree_self child)
    rwa [← h.eq_of_uid hdesc (mem_descendants_of_mem_decompose h hclaim) huid]
  · exact fun hchild => ⟨claim.root, hchild, rfl⟩

/-- The units of a body stand in the order of the document. -/
theorem pairwise_uids_decompose (h : body.Distinct) :
    ((decompose body reserved).map fun claim => claim.root.uid).Pairwise (· < ·) := by
  have hle : (decompose body reserved).Pairwise fun a b =>
      decide (a.root.uid ≤ b.root.uid) = true := by
    refine List.pairwise_mergeSort ?_ ?_ _
    · intro a b c hab hbc
      simp only [decide_eq_true_eq] at hab hbc ⊢
      exact Int.le_trans hab hbc
    · intro a b
      simp only [Bool.or_eq_true, decide_eq_true_eq]
      exact Int.le_total _ _
  have hne := nodup_uids_decompose reserved h
  rw [List.Nodup, List.pairwise_map] at hne
  rw [List.pairwise_map]
  -- sorting makes the numbers ascend, and no two of them are the same
  refine (hle.and hne).imp fun {a b} hab => ?_
  have hab' : a.root.uid ≤ b.root.uid := by simpa using hab.1
  have hdiff : a.root.uid ≠ b.root.uid := hab.2
  omega

end

end Componentry
