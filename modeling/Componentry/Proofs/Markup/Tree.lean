import Componentry.Markup.Node
import Mathlib.Data.List.Chain
import Mathlib.Data.List.Nodup

/-!
# Document trees

Induction on nodes, and paths from a node down to one below it. In a tree whose nodes have numbers
of their own, a node is determined by its number and so is the path that leads to it:

* `Node.induct`: a property holds of every node if it passes from the children of a node to the
  node;
* `Node.mem_descendants_iff`: the nodes below a node are the ends of the paths from it;
* `Node.Descends.eq_of_uid`: two paths to nodes of one number are the same path.
-/

namespace Componentry.Node

/-! ### Induction -/

theorem cost_le_costAll {child : Node} {nodes : List Node} (h : child ∈ nodes) :
    child.cost ≤ costAll nodes := by
  induction nodes with
  | nil => cases h
  | cons node nodes ih =>
    rw [costAll]
    rcases List.mem_cons.1 h with rfl | h
    · exact Nat.le_add_right _ _
    · exact Nat.le_add_left_of_le (ih h)

/-- Induction on a node, from its children to the node itself. -/
theorem induct {motive : Node → Prop}
    (step : ∀ node : Node, (∀ child ∈ node.children, motive child) → motive node) (node : Node) :
    motive node := by
  -- a child costs less than its parent, so the induction is on the cost
  induction hcost : node.cost using Nat.strong_induction_on generalizing node with
  | _ n ih =>
    refine step node fun child hchild => ih child.cost ?_ child rfl
    have hle := cost_le_costAll hchild
    rw [← hcost, cost_eq node]
    omega

/-! ### The nodes below a node -/

theorem subtreeAll_eq_flatMap (nodes : List Node) : subtreeAll nodes = nodes.flatMap subtree := by
  induction nodes with
  | nil => rfl
  | cons node nodes ih => rw [subtreeAll, ih, List.flatMap_cons]

/-- The nodes strictly below a node, in document order. -/
def descendants (node : Node) : List Node := subtreeAll node.children

theorem subtree_eq_cons (node : Node) : node.subtree = node :: node.descendants := subtree_eq node

theorem mem_subtree_self (node : Node) : node ∈ node.subtree := by
  rw [subtree_eq_cons]
  exact List.mem_cons_self

theorem mem_subtree_iff {node n : Node} : n ∈ node.subtree ↔ n = node ∨ n ∈ node.descendants := by
  rw [subtree_eq_cons, List.mem_cons]

theorem mem_descendants_of_child {node child n : Node} (hchild : child ∈ node.children)
    (h : n ∈ child.subtree) : n ∈ node.descendants := by
  rw [descendants, subtreeAll_eq_flatMap]
  exact List.mem_flatMap_of_mem hchild h

theorem mem_descendants_iff_child {node n : Node} :
    n ∈ node.descendants ↔ ∃ child ∈ node.children, n ∈ child.subtree := by
  rw [descendants, subtreeAll_eq_flatMap, List.mem_flatMap]

theorem children_sublist_descendants (node : Node) : node.children.Sublist node.descendants := by
  rw [descendants]
  induction node.children with
  | nil => exact List.Sublist.refl _
  | cons child nodes ih =>
    -- the first child comes first below the node, and the others come after what is below it
    rw [subtreeAll, subtree_eq_cons, List.cons_append]
    exact (List.Sublist.trans ih (List.sublist_append_right _ _)).cons_cons child

/-- What is below a node of a subtree is in the subtree. -/
theorem descendants_subset_of_mem {node n : Node} (h : n ∈ node.subtree) :
    n.descendants ⊆ node.descendants := by
  induction node using induct with
  | step node ih =>
    rcases mem_subtree_iff.1 h with rfl | hdesc
    · exact List.Subset.refl _
    · obtain ⟨child, hchild, hn⟩ := mem_descendants_iff_child.1 hdesc
      intro m hm
      exact mem_descendants_of_child hchild (mem_subtree_iff.2 (.inr (ih child hchild hn hm)))

/-! ### Paths -/

/-- `path` leads down from `top`: its first node is a child of `top`, and every further one a child
of the one before it. -/
def Descends (top : Node) (path : List Node) : Prop :=
  (top :: path).IsChain fun parent child => child ∈ parent.children

@[simp]
theorem descends_nil (top : Node) : Descends top [] := List.isChain_singleton _

@[simp]
theorem descends_cons {top node : Node} {path : List Node} :
    Descends top (node :: path) ↔ node ∈ top.children ∧ Descends node path :=
  List.isChain_cons_cons

theorem descends_append_cons {top node : Node} {outer inner : List Node} :
    Descends top (outer ++ node :: inner) ↔
      Descends top (outer ++ [node]) ∧ Descends node inner := by
  induction outer generalizing top with
  | nil => simp
  | cons first outer ih => simp [ih, and_assoc]

theorem Descends.append {top node n : Node} {above below : List Node}
    (h : Descends top (above ++ [node])) (h' : Descends node (below ++ [n])) :
    Descends top ((above ++ node :: below) ++ [n]) := by
  rw [List.append_assoc]
  exact descends_append_cons.2 ⟨h, h'⟩

theorem Descends.mem_descendants {top node : Node} {path : List Node} (h : Descends top path)
    (hnode : node ∈ path) : node ∈ top.descendants := by
  induction path generalizing top with
  | nil => cases hnode
  | cons first path ih =>
    obtain ⟨hfirst, hpath⟩ := descends_cons.1 h
    rcases List.mem_cons.1 hnode with rfl | hnode
    · exact mem_descendants_of_child hfirst (mem_subtree_self _)
    · exact mem_descendants_of_child hfirst (mem_subtree_iff.2 (.inr (ih hpath hnode)))

/-- The nodes below a node are those that a path from it ends in. -/
theorem mem_descendants_iff {top node : Node} :
    node ∈ top.descendants ↔ ∃ path, Descends top (path ++ [node]) := by
  constructor
  · intro h
    induction top using induct with
    | step top ih =>
      -- the path goes through the child above the node
      obtain ⟨child, hchild, hnode⟩ := mem_descendants_iff_child.1 h
      rcases mem_subtree_iff.1 hnode with rfl | hdesc
      · exact ⟨[], by simpa using hchild⟩
      · obtain ⟨path, hpath⟩ := ih child hchild hdesc
        exact ⟨child :: path, by simpa using ⟨hchild, hpath⟩⟩
  · rintro ⟨path, hpath⟩
    exact hpath.mem_descendants (by simp)

/-- `node` leads down to `n`, and `through` holds of every node on the way before `n`. -/
inductive LeadsBy (through : Node → Prop) : Node → Node → Prop
  /-- A node leads to itself. -/
  | self (node : Node) : LeadsBy through node node
  /-- A node that may be passed leads to what its children lead to. -/
  | child {node child n : Node} : through node → child ∈ node.children →
      LeadsBy through child n → LeadsBy through node n

theorem leadsBy_iff {through : Node → Prop} {node n : Node} :
    LeadsBy through node n ↔
      n = node ∨ through node ∧ ∃ child ∈ node.children, LeadsBy through child n := by
  constructor
  · rintro (_ | ⟨hnode, hchild, h⟩)
    · exact .inl rfl
    · exact .inr ⟨hnode, _, hchild, h⟩
  · rintro (rfl | ⟨hnode, child, hchild, h⟩)
    · exact .self _
    · exact .child hnode hchild h

theorem LeadsBy.mem_subtree {through : Node → Prop} {node n : Node} (h : LeadsBy through node n) :
    n ∈ node.subtree := by
  induction h with
  | self node => exact mem_subtree_self node
  | child _ hchild _ ih => exact mem_subtree_iff.2 (.inr (mem_descendants_of_child hchild ih))

theorem LeadsBy.mono {through through' : Node → Prop} {node n : Node}
    (h : LeadsBy through node n) (himp : ∀ m, through m → through' m) :
    LeadsBy through' node n := by
  induction h with
  | self node => exact .self node
  | child hnode hchild _ ih => exact .child (himp _ hnode) hchild ih

/-- What leads to a node is a path, whose nodes before the last one may be passed. -/
theorem LeadsBy.exists_path {through : Node → Prop} {node n : Node} (h : LeadsBy through node n) :
    ∃ path outer, node.Descends path ∧ node :: path = outer ++ [n] ∧ ∀ m ∈ outer, through m := by
  induction h with
  | self node => exact ⟨[], [], descends_nil node, rfl, by simp⟩
  | @child node child n hnode hchild _ ih =>
    -- the node above goes in front of the path and of the nodes that may be passed
    obtain ⟨path, outer, hpath, heq, houter⟩ := ih
    refine ⟨child :: path, node :: outer, descends_cons.2 ⟨hchild, hpath⟩, by rw [heq]; rfl, ?_⟩
    intro m hm
    rcases List.mem_cons.1 hm with rfl | hm
    · exact hnode
    · exact houter m hm

theorem leadsBy_of_path {through : Node → Prop} {node n : Node} {path outer : List Node}
    (hpath : node.Descends path) (heq : node :: path = outer ++ [n])
    (houter : ∀ m ∈ outer, through m) : LeadsBy through node n := by
  induction outer generalizing node path with
  | nil =>
    obtain ⟨rfl, -⟩ := List.cons.inj heq
    exact .self node
  | cons first outer ih =>
    rw [List.cons_append, List.cons.injEq] at heq
    obtain ⟨rfl, hrest⟩ := heq
    cases path with
    | nil => cases outer <;> cases hrest
      -- a node that may be passed is not the end of the path, so the path goes on
    | cons child path =>
      obtain ⟨hchild, hpath⟩ := descends_cons.1 hpath
      exact .child (houter node List.mem_cons_self) hchild
        (ih hpath hrest fun m hm => houter m (List.mem_cons_of_mem _ hm))

/-- A node leads to another one if there is a path to it on which every node before the last one may
be passed. -/
theorem leadsBy_iff_exists_path {through : Node → Prop} {node n : Node} (hne : n ≠ node) :
    LeadsBy through node n ↔
      ∃ path, node.Descends (path ++ [n]) ∧ ∀ m ∈ node :: path, through m := by
  constructor
  · intro h
    obtain ⟨path, outer, hpath, heq, houter⟩ := h.exists_path
    cases outer with
    | nil => exact absurd (List.cons.inj heq).1.symm hne
    | cons first outer =>
      obtain ⟨rfl, rfl⟩ := List.cons.inj heq
      exact ⟨outer, hpath, houter⟩
  · rintro ⟨path, hpath, hpasses⟩
    exact leadsBy_of_path hpath rfl hpasses

/-! ### Numbered trees -/

/-- No two nodes below `top` have the same number. -/
def Distinct (top : Node) : Prop := (top.descendants.map uid).Nodup

/-- The numbers of a node and of the nodes below it are different. -/
def DistinctWith (node : Node) : Prop := (node.subtree.map uid).Nodup

theorem DistinctWith.distinct {node : Node} (h : node.DistinctWith) : node.Distinct := by
  rw [DistinctWith, subtree_eq_cons, List.map_cons, List.nodup_cons] at h
  exact h.2

theorem Distinct.eq_of_uid {top n m : Node} (h : top.Distinct) (hn : n ∈ top.descendants)
    (hm : m ∈ top.descendants) (huid : n.uid = m.uid) : n = m :=
  List.inj_on_of_nodup_map h hn hm huid

/-- A node is found by its number. -/
theorem DistinctWith.find?_uid {top n : Node} (h : top.DistinctWith) (hn : n ∈ top.subtree) :
    top.subtree.find? (·.uid = n.uid) = some n := by
  cases hfind : top.subtree.find? (·.uid = n.uid) with
  | none => exact absurd (decide_eq_true rfl) (List.find?_eq_none.1 hfind n hn)
  | some m =>
    have huid : m.uid = n.uid := by simpa using List.find?_some hfind
    rw [List.inj_on_of_nodup_map h (List.mem_of_find?_eq_some hfind) hn huid]

theorem Distinct.nodup_children {top : Node} (h : top.Distinct) :
    (top.children.map uid).Nodup :=
  ((children_sublist_descendants top).map uid).nodup h

theorem Distinct.distinctWith_of_child {top child : Node} (h : top.Distinct)
    (hchild : child ∈ top.children) : child.DistinctWith := by
  rw [Distinct, descendants, subtreeAll_eq_flatMap, List.map_flatMap, List.nodup_flatMap] at h
  exact h.1 child hchild

theorem Distinct.distinctWith_of_mem {top node : Node} (h : top.Distinct)
    (hnode : node ∈ top.descendants) : node.DistinctWith := by
  induction top using induct with
  | step top ih =>
    obtain ⟨child, hchild, hmem⟩ := mem_descendants_iff_child.1 hnode
    have hwith := h.distinctWith_of_child hchild
    rcases mem_subtree_iff.1 hmem with rfl | hdesc
    · exact hwith
    · exact ih child hchild hwith.distinct hdesc

/-- Two children of a node with a node in common are the same child. -/
theorem Distinct.child_unique {top c d n : Node} (h : top.Distinct) (hc : c ∈ top.children)
    (hd : d ∈ top.children) (hnc : n ∈ c.subtree) (hnd : n ∈ d.subtree) : c = d := by
  rw [Distinct, descendants, subtreeAll_eq_flatMap, List.map_flatMap, List.nodup_flatMap] at h
  by_contra hne
  -- the subtrees of different children have no number in common
  have : Std.Symm (Function.onFun List.Disjoint fun c : Node => c.subtree.map uid) :=
    ⟨fun _ _ => List.disjoint_symm⟩
  have hdisj := h.2.forall hc hd hne
  exact hdisj (List.mem_map_of_mem hnc) (List.mem_map_of_mem hnd)

/-- A node of a numbered tree is not below itself. -/
theorem DistinctWith.not_mem_descendants {node : Node} (h : node.DistinctWith) :
    node ∉ node.descendants := by
  rw [DistinctWith, subtree_eq_cons, List.map_cons, List.nodup_cons] at h
  exact fun hmem => h.1 (List.mem_map_of_mem hmem)

private theorem Descends.eq_of_last {top node : Node} {p q : List Node} (hd : top.Distinct)
    (hp : Descends top (p ++ [node])) (hq : Descends top (q ++ [node])) : p = q := by
  induction p generalizing top q with
  | nil =>
    cases q with
    | nil => rfl
    | cons d q =>
      obtain ⟨hnode, -⟩ := descends_cons.1 hp
      obtain ⟨hdtop, hq⟩ := descends_cons.1 hq
      have hmem : node ∈ d.descendants := hq.mem_descendants (by simp)
      -- the path through `d` would lead from the child `node` to itself
      have hdn : d = node := hd.child_unique hdtop hnode
        (mem_subtree_iff.2 (.inr hmem)) (mem_subtree_self node)
      subst hdn
      exact absurd hmem (hd.distinctWith_of_child hdtop).not_mem_descendants
  | cons c p ih =>
    obtain ⟨hctop, hp⟩ := descends_cons.1 hp
    have hmem : node ∈ c.descendants := hp.mem_descendants (by simp)
    cases q with
    | nil =>
      obtain ⟨hnode, -⟩ := descends_cons.1 hq
      have hcn : c = node := hd.child_unique hctop hnode
        (mem_subtree_iff.2 (.inr hmem)) (mem_subtree_self node)
      subst hcn
      exact absurd hmem (hd.distinctWith_of_child hctop).not_mem_descendants
    | cons d q =>
      obtain ⟨hdtop, hq⟩ := descends_cons.1 hq
      have hmem' : node ∈ d.descendants := hq.mem_descendants (by simp)
      -- both paths start with the one child that has the node below it
      have hcd : c = d := hd.child_unique hctop hdtop
        (mem_subtree_iff.2 (.inr hmem)) (mem_subtree_iff.2 (.inr hmem'))
      subst hcd
      rw [ih (hd.distinctWith_of_child hctop).distinct hp hq]

/-- In a numbered tree, two paths to nodes of the same number are the same path. -/
theorem Descends.eq_of_uid {top n m : Node} {p q : List Node} (hd : top.Distinct)
    (hp : Descends top (p ++ [n])) (hq : Descends top (q ++ [m])) (huid : n.uid = m.uid) :
    p = q ∧ n = m := by
  -- the number determines the node, and the node the path
  have hnm := hd.eq_of_uid (hp.mem_descendants (by simp)) (hq.mem_descendants (by simp)) huid
  subst hnm
  exact ⟨Descends.eq_of_last hd hp hq, rfl⟩

/-- What a longer path leads to is no child of the node that the path starts at. -/
theorem Descends.not_mem_children {top n : Node} {path : List Node} (hd : top.Distinct)
    (h : Descends top (path ++ [n])) (hpath : path ≠ []) : n ∉ top.children := by
  intro hchild
  have htop : Descends top ([] ++ [n]) := by simpa using hchild
  exact hpath (Descends.eq_of_last hd h htop)

end Componentry.Node
