import Componentry.Proofs.Template.Piece

/-!
# The units that a template uses

The template of a node uses another unit in the place of that unit's root, if emitting gets there:

* `Emitter.mem_uses_iff`: which units a template uses;
* `Emitter.uses_sublist`: it uses them in document order, none of them twice.
-/

namespace Componentry.Template

/-- The unit that a piece uses: the number of its root and its name. -/
def Piece.use? : Piece → Option (Int × Text)
  | .reference uid name => some (uid, name)
  | _ => none

namespace Emitter

variable {e : Emitter} {root : Int} {node : Node}

/-- The units that some pieces use, once for each time that they use them. -/
def uses (pieces : List Piece) : List (Int × Text) := pieces.filterMap Piece.use?

theorem mem_uses {pieces : List Piece} {uid : Int} {name : Text} :
    (uid, name) ∈ uses pieces ↔ .reference uid name ∈ pieces := by
  rw [uses, List.mem_filterMap]
  constructor
  · rintro ⟨piece, hmem, huse⟩
    cases piece <;> cases huse
    exact hmem
  · exact fun hmem => ⟨_, hmem, rfl⟩

/-! ### The uses of a node of each kind -/

theorem uses_unit {name : Text} (hkind : node.kind = .element)
    (hunit : e.unitAt root node.uid = some name) :
    uses (e.pieces root node) = [(node.uid, name)] := by
  rw [pieces_unit hkind hunit]
  rfl

theorem uses_below (h : e.Passes root node) :
    uses (e.pieces root node) = node.children.flatMap fun child => uses (e.pieces root child) := by
  have hclosing : uses [Piece.closing node.tag?] = [] := rfl
  rw [pieces_open h.element h.unit h.kept h.content, piecesAll_eq_flatMap]
  simp only [uses, List.filterMap_cons, Piece.use?, List.filterMap_append,
    List.filterMap_flatMap] at hclosing ⊢
  rw [hclosing, List.append_nil]

/-- A node that is no root of another unit and that emitting does not go below uses nothing. -/
theorem uses_eq_nil (hunit : node.kind = .element → e.unitAt root node.uid = none)
    (hstop : ¬ e.Passes root node) : uses (e.pieces root node) = [] := by
  have hemits := e.emits_pieces root node
  generalize e.pieces root node = pieces at hemits
  cases hemits with
  | unit hkind hsome => cases hsome.symm.trans (hunit hkind)
  | content hpasses => exact absurd hpasses hstop
  | _ => rfl

/-- A node is the root of another unit, or emitting goes on below it, or it stops there. -/
theorem uses_cases (e : Emitter) (root : Int) (node : Node) :
    (∃ name, node.kind = .element ∧ e.unitAt root node.uid = some name) ∨ e.Passes root node ∨
      (node.kind = .element → e.unitAt root node.uid = none) ∧ ¬ e.Passes root node := by
  by_cases hunit : node.kind = .element → e.unitAt root node.uid = none
  · exact .inr ((em (e.Passes root node)).imp_right fun hstop => ⟨hunit, hstop⟩)
  · obtain ⟨hkind, hsome⟩ := Classical.not_imp.1 hunit
    obtain ⟨name, hname⟩ := Option.ne_none_iff_exists'.1 hsome
    exact .inl ⟨name, hkind, hname⟩

/-! ### The uses of a template -/

/-- The template of `node` uses the units whose roots emitting gets to. -/
theorem mem_uses_iff {uid : Int} {name : Text} :
    (uid, name) ∈ uses (e.pieces root node) ↔
      ∃ n, Node.LeadsBy (e.Passes root) node n ∧ n.kind = .element ∧ n.uid = uid ∧
        e.unitAt root uid = some name := by
  induction node using Node.induct with
  | step node ih =>
    rcases uses_cases e root node with ⟨other, hkind, hunit⟩ | hpasses | ⟨hunit, hstop⟩
    · -- the node stands for a unit, and nothing below it is emitted
      rw [uses_unit hkind hunit, List.mem_singleton, Prod.mk.injEq]
      constructor
      · rintro ⟨rfl, rfl⟩
        exact ⟨node, .self node, hkind, rfl, hunit⟩
      · rintro ⟨n, hleads, -, rfl, hname⟩
        rcases Node.leadsBy_iff.1 hleads with rfl | ⟨hpasses, -⟩
        · exact ⟨rfl, Option.some.inj (hname.symm.trans hunit)⟩
        · cases hunit.symm.trans hpasses.unit
    · -- emitting goes on below the node
      rw [uses_below hpasses, List.mem_flatMap]
      constructor
      · rintro ⟨child, hchild, hmem⟩
        obtain ⟨n, hleads, hn⟩ := (ih child hchild).1 hmem
        exact ⟨n, .child hpasses hchild hleads, hn⟩
      · rintro ⟨n, hleads, hkind, rfl, hname⟩
        rcases Node.leadsBy_iff.1 hleads with rfl | ⟨-, child, hchild, hleads⟩
        · cases hname.symm.trans hpasses.unit
        · exact ⟨child, hchild, (ih child hchild).2 ⟨n, hleads, hkind, rfl, hname⟩⟩
    · -- emitting stops without a use
      rw [uses_eq_nil hunit hstop]
      constructor
      · intro hmem
        cases hmem
      · rintro ⟨n, hleads, hkind, rfl, hname⟩
        rcases Node.leadsBy_iff.1 hleads with rfl | ⟨hpasses, -⟩
        · cases hname.symm.trans (hunit hkind)
        · exact absurd hpasses hstop

/-- The roots of the units that the template of a node uses stand in document order. -/
theorem uses_sublist (e : Emitter) (root : Int) (node : Node) :
    ((uses (e.pieces root node)).map Prod.fst).Sublist (node.subtree.map Node.uid) := by
  induction node using Node.induct with
  | step node ih =>
    rw [Node.subtree_eq_cons, List.map_cons]
    rcases uses_cases e root node with ⟨name, hkind, hunit⟩ | hpasses | ⟨hunit, hstop⟩
    · rw [uses_unit hkind hunit]
      exact (List.nil_sublist _).cons_cons node.uid
    · rw [uses_below hpasses, List.map_flatMap, Node.descendants, Node.subtreeAll_eq_flatMap,
        List.map_flatMap]
      exact (List.Sublist.flatMap_right _ ih).cons node.uid
    · rw [uses_eq_nil hunit hstop]
      exact List.nil_sublist _

end Emitter

end Componentry.Template
