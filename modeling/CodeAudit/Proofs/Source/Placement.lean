import CodeAudit.Proofs.OrderedList
import CodeAudit.Proofs.StableSort

/-!
Trees placed in a text: the children of a node lie inside it, one after the other. Two parts of such
a tree lie apart, or one lies inside the other. The statements of a body are parts of it that follow
one another. Routines are listed by their beginnings, so that their statements are on rows in this
order wherever no routine lies inside another.
-/

namespace CodeAudit

namespace Tree

/-- To prove something of a tree it may be assumed of its children. -/
theorem child_induction {motive : Tree → Prop}
    (step : ∀ tree : Tree, (∀ child ∈ tree.children, motive child) → motive tree) (tree : Tree) :
    motive tree := by
  apply step
  intro child member
  have smaller : child.size < tree.size := by
    cases tree with
    | node given members =>
        have bound := size_le_of_mem member
        simp only [children, size] at *
        omega
  exact child_induction step child
termination_by tree.size

theorem forest_subtrees_eq_flat_map (forest : List Tree) :
    forestSubtrees forest = forest.flatMap subtrees := by
  induction forest with
  | nil => rfl
  | cons head rest ih => rw [forestSubtrees, ih, List.flatMap_cons]

theorem mem_forest_subtrees {part : Tree} {forest : List Tree} :
    part ∈ forestSubtrees forest ↔ ∃ tree ∈ forest, part ∈ tree.subtrees := by
  rw [forest_subtrees_eq_flat_map, List.mem_flatMap]

theorem mem_subtrees {part tree : Tree} :
    part ∈ tree.subtrees ↔ part = tree ∨ ∃ child ∈ tree.children, part ∈ child.subtrees := by
  cases tree with
  | node given members => simp [subtrees, children, mem_forest_subtrees]

theorem self_mem_subtrees (tree : Tree) : tree ∈ tree.subtrees :=
  mem_subtrees.mpr (Or.inl rfl)

theorem mem_subtrees_of_child {part child tree : Tree} (isChild : child ∈ tree.children)
    (member : part ∈ child.subtrees) : part ∈ tree.subtrees :=
  mem_subtrees.mpr (Or.inr ⟨child, isChild, member⟩)

theorem mem_subtrees_trans {part middle tree : Tree} (inner : part ∈ middle.subtrees)
    (outer : middle ∈ tree.subtrees) : part ∈ tree.subtrees := by
  induction tree using child_induction with
  | step tree ih =>
      rcases mem_subtrees.mp outer with same | ⟨child, isChild, deeper⟩
      · exact same ▸ inner
      · exact mem_subtrees_of_child isChild (ih child isChild deeper)

/-- The bytes of one tree are among those of the other. -/
def Inside (inner outer : Tree) : Prop :=
  outer.root.startByte ≤ inner.root.startByte ∧ inner.root.endByte ≤ outer.root.endByte

def EndsBefore (left right : Tree) : Prop :=
  left.root.endByte ≤ right.root.startByte

instance (inner outer : Tree) : Decidable (inner.Inside outer) :=
  inferInstanceAs (Decidable (_ ∧ _))

instance (left right : Tree) : Decidable (left.EndsBefore right) :=
  inferInstanceAs (Decidable (_ ≤ _))

/-- Every node covers a run of bytes, in which those of its children lie in order. -/
structure Placed (tree : Tree) : Prop where
  proper : ∀ part ∈ tree.subtrees, part.root.startByte ≤ part.root.endByte
  inside : ∀ part ∈ tree.subtrees, ∀ child ∈ part.children, child.Inside part
  ordered : ∀ part ∈ tree.subtrees, part.children.Pairwise EndsBefore

instance (tree : Tree) : Decidable tree.Placed :=
  decidable_of_iff ((∀ part ∈ tree.subtrees, part.root.startByte ≤ part.root.endByte) ∧
      (∀ part ∈ tree.subtrees, ∀ child ∈ part.children, child.Inside part) ∧
      ∀ part ∈ tree.subtrees, part.children.Pairwise EndsBefore)
    ⟨fun facts => ⟨facts.1, facts.2.1, facts.2.2⟩,
      fun placed => ⟨placed.proper, placed.inside, placed.ordered⟩⟩

def places (tree : Tree) : List (Nat × Nat) :=
  tree.subtrees.flatMap fun part =>
    [(part.root.startByte, part.root.startRow), (part.root.endByte, part.root.endRow)]

theorem start_mem_places {part tree : Tree} (member : part ∈ tree.subtrees) :
    (part.root.startByte, part.root.startRow) ∈ tree.places :=
  List.mem_flatMap.mpr ⟨part, member, by simp⟩

theorem end_mem_places {part tree : Tree} (member : part ∈ tree.subtrees) :
    (part.root.endByte, part.root.endRow) ∈ tree.places :=
  List.mem_flatMap.mpr ⟨part, member, by simp⟩

theorem Inside.refl (tree : Tree) : tree.Inside tree :=
  ⟨Nat.le_refl _, Nat.le_refl _⟩

theorem Inside.trans {inner middle outer : Tree} (deeper : inner.Inside middle)
    (higher : middle.Inside outer) : inner.Inside outer :=
  ⟨Nat.le_trans higher.1 deeper.1, Nat.le_trans deeper.2 higher.2⟩

section Parts

variable {tree : Tree}

theorem Placed.of_mem (placed : tree.Placed) {part : Tree} (member : part ∈ tree.subtrees) :
    part.Placed := by
  constructor
  · intro inner deeper
    exact placed.proper inner (mem_subtrees_trans deeper member)
  · intro inner deeper
    exact placed.inside inner (mem_subtrees_trans deeper member)
  · intro inner deeper
    exact placed.ordered inner (mem_subtrees_trans deeper member)

theorem child_mem_subtrees {child : Tree} (isChild : child ∈ tree.children) :
    child ∈ tree.subtrees :=
  mem_subtrees_of_child isChild (self_mem_subtrees child)

theorem inside_of_mem (placed : tree.Placed) {part : Tree} (member : part ∈ tree.subtrees) :
    part.Inside tree := by
  induction tree using child_induction with
  | step tree ih =>
      rcases mem_subtrees.mp member with same | ⟨child, isChild, deeper⟩
      · rw [same]
        exact Inside.refl tree
      · have inChild := ih child isChild (placed.of_mem (child_mem_subtrees isChild)) deeper
        exact inChild.trans (placed.inside tree (self_mem_subtrees tree) child isChild)

/-- Two parts lie apart, unless one is a part of the other. -/
theorem apart_or_part (placed : tree.Placed) {left right : Tree}
    (inLeft : left ∈ tree.subtrees) (inRight : right ∈ tree.subtrees) :
    left.EndsBefore right ∨ right.EndsBefore left ∨ left ∈ right.subtrees ∨
      right ∈ left.subtrees := by
  induction tree using child_induction with
  | step tree ih =>
      rcases mem_subtrees.mp inLeft with isTree | ⟨leftChild, isLeft, deeperLeft⟩
      · rw [isTree]
        exact Or.inr (Or.inr (Or.inr inRight))
      rcases mem_subtrees.mp inRight with isTree | ⟨rightChild, isRight, deeperRight⟩
      · rw [isTree]
        exact Or.inr (Or.inr (Or.inl inLeft))
      have leftPlaced := placed.of_mem (child_mem_subtrees isLeft)
      have rightPlaced := placed.of_mem (child_mem_subtrees isRight)
      have leftInside := inside_of_mem leftPlaced deeperLeft
      have rightInside := inside_of_mem rightPlaced deeperRight
      -- Different children lie apart, and with them all that is in them.
      rcases related_of_mem_pairwise (placed.ordered tree (self_mem_subtrees tree)) isLeft isRight
        with same | before | after
      · subst same
        exact ih leftChild isLeft leftPlaced deeperLeft deeperRight
      · exact Or.inl (Nat.le_trans leftInside.2 (Nat.le_trans before rightInside.1))
      · exact Or.inr (Or.inl (Nat.le_trans rightInside.2 (Nat.le_trans after leftInside.1)))

theorem apart_or_inside (placed : tree.Placed) {left right : Tree}
    (inLeft : left ∈ tree.subtrees) (inRight : right ∈ tree.subtrees) :
    left.EndsBefore right ∨ right.EndsBefore left ∨ left.Inside right ∨ right.Inside left := by
  rcases apart_or_part placed inLeft inRight with before | after | isPart | isWhole
  · exact Or.inl before
  · exact Or.inr (Or.inl after)
  · exact Or.inr (Or.inr (Or.inl (inside_of_mem (placed.of_mem inRight) isPart)))
  · exact Or.inr (Or.inr (Or.inr (inside_of_mem (placed.of_mem inLeft) isWhole)))

theorem members_sublist (tree : Tree) : tree.members.Sublist tree.children :=
  List.filter_sublist.trans List.filter_sublist

/-- Unwrapping ends at a part whose members are the statements. -/
theorem exists_unwrapped (tree : Tree) :
    ∃ holder ∈ tree.subtrees, tree.unwrapStatements = holder.members := by
  induction tree using child_induction with
  | step tree ih =>
      rw [unwrapStatements]
      split
      · rename_i child only
        have isChild : child ∈ tree.children := by
          apply (members_sublist tree).subset
          simp [only]
        split
        · obtain ⟨holder, deeper, statements⟩ := ih child isChild
          exact ⟨holder, mem_subtrees_of_child isChild deeper, statements⟩
        · exact ⟨tree, self_mem_subtrees tree, only.symm⟩
      · exact ⟨tree, self_mem_subtrees tree, rfl⟩

theorem statement_mem_subtrees {body statement : Tree} (member : statement ∈ body.statements) :
    statement ∈ body.subtrees := by
  rw [statements] at member
  split at member
  · obtain ⟨holder, isPart, unwrapped⟩ := exists_unwrapped body
    rw [unwrapped] at member
    have isChild := (members_sublist holder).subset member
    exact mem_subtrees_trans (child_mem_subtrees isChild) isPart
  · rw [List.mem_singleton.mp member]
    exact self_mem_subtrees body

theorem statements_ordered {body : Tree} (placed : body.Placed) :
    body.statements.Pairwise EndsBefore := by
  rw [statements]
  split
  · obtain ⟨holder, isPart, unwrapped⟩ := exists_unwrapped body
    rw [unwrapped]
    exact (placed.ordered holder isPart).sublist (members_sublist holder)
  · exact List.pairwise_singleton _ _

theorem mem_subtrees_of_field? {node target : Tree} {field : Field}
    (found : node.field? tree.subtrees.toArray field = some target) : target ∈ tree.subtrees := by
  obtain ⟨index, _, atIndex⟩ := Option.bind_eq_some_iff.mp found
  rw [List.getElem?_toArray] at atIndex
  exact List.mem_of_getElem? atIndex

end Parts
end Tree

namespace SourceUnit

/-- The order in which routines are listed. -/
def RangeBefore (left right : Nat × Nat) : Prop :=
  left.1 < right.1 ∨ left.1 = right.1 ∧ left.2 < right.2

theorem range_le_iff (left right : Tree) : rangeLe left right = true ↔
    byteRange left = byteRange right ∨ RangeBefore (byteRange left) (byteRange right) := by
  simp [rangeLe, byteRange, RangeBefore]
  omega

theorem range_le_order : TotalPreorder rangeLe := by
  constructor
  · intro left middle right
    simp only [range_le_iff, RangeBefore, Prod.ext_iff]
    omega
  · intro left right
    rw [Bool.or_eq_true]
    simp only [range_le_iff, RangeBefore, Prod.ext_iff]
    omega

theorem RangeBefore.irrefl (range : Nat × Nat) : ¬ RangeBefore range range := by
  simp [RangeBefore]

theorem RangeBefore.trans (left middle right : Nat × Nat) (first : RangeBefore left middle)
    (second : RangeBefore middle right) : RangeBefore left right := by
  simp only [RangeBefore] at *
  omega

theorem sorted_ranges (nodes : List Tree) : (nodes.mergeSort rangeLe).Pairwise fun left right =>
    byteRange left = byteRange right ∨ RangeBefore (byteRange left) (byteRange right) :=
  (merge_sort_sorted range_le_order nodes).imp fun {left right} => (range_le_iff left right).mp

theorem routine_nodes_ordered (unit : SourceUnit) : unit.routineNodes.Pairwise fun left right =>
    RangeBefore (byteRange left) (byteRange right) :=
  first_of_runs_pairwise_key RangeBefore.trans _ (sorted_ranges _)

theorem mem_subtrees_of_routine_node {unit : SourceUnit} {node : Tree}
    (member : node ∈ unit.routineNodes) : node ∈ unit.tree.subtrees := by
  have sorted := mem_of_mem_first_of_runs member
  rw [List.mem_mergeSort] at sorted
  exact (List.mem_filter.mp sorted).1

def statementsAt (unit : SourceUnit) (node : Tree) : List Tree :=
  (unit.routineOf unit.tree.subtrees.toArray node).statements

/-- The tree lies in the text as a parser leaves it: later bytes are on later rows, and what a node
names as its body lies inside it. -/
structure Placed (unit : SourceUnit) : Prop where
  tree : unit.tree.Placed
  rows : ∀ left ∈ unit.tree.places, ∀ right ∈ unit.tree.places, left.1 ≤ right.1 → left.2 ≤ right.2
  bodies : ∀ node ∈ unit.tree.subtrees,
    ∀ body ∈ node.field? unit.tree.subtrees.toArray .body, body.Inside node

instance (unit : SourceUnit) : Decidable unit.Placed :=
  decidable_of_iff (unit.tree.Placed ∧
      (∀ left ∈ unit.tree.places, ∀ right ∈ unit.tree.places, left.1 ≤ right.1 → left.2 ≤ right.2) ∧
      ∀ node ∈ unit.tree.subtrees,
        ∀ body ∈ node.field? unit.tree.subtrees.toArray .body, body.Inside node)
    ⟨fun facts => ⟨facts.1, facts.2.1, facts.2.2⟩,
      fun placed => ⟨placed.tree, placed.rows, placed.bodies⟩⟩

section Rows

variable {unit : SourceUnit} (placed : unit.Placed) {left right : Tree}
  (inLeft : left ∈ unit.tree.subtrees) (inRight : right ∈ unit.tree.subtrees)

include placed inLeft inRight

theorem start_row_le (earlier : left.root.startByte ≤ right.root.startByte) :
    left.root.startRow ≤ right.root.startRow :=
  placed.rows _ (Tree.start_mem_places inLeft) _ (Tree.start_mem_places inRight) earlier

theorem end_row_le (earlier : left.root.endByte ≤ right.root.endByte) :
    left.root.endRow ≤ right.root.endRow :=
  placed.rows _ (Tree.end_mem_places inLeft) _ (Tree.end_mem_places inRight) earlier

theorem rows_of_ends_before (before : left.EndsBefore right) :
    left.root.endRow ≤ right.root.startRow :=
  placed.rows _ (Tree.end_mem_places inLeft) _ (Tree.start_mem_places inRight) before

theorem rows_of_inside (inside : left.Inside right) :
    right.root.startRow ≤ left.root.startRow ∧ left.root.endRow ≤ right.root.endRow :=
  ⟨start_row_le placed inRight inLeft inside.1, end_row_le placed inLeft inRight inside.2⟩

end Rows

theorem start_row_le_end_row {unit : SourceUnit} (placed : unit.Placed) {part : Tree}
    (isPart : part ∈ unit.tree.subtrees) : part.root.startRow ≤ part.root.endRow :=
  placed.rows _ (Tree.start_mem_places isPart) _ (Tree.end_mem_places isPart)
    (placed.tree.proper part isPart)

/-- Routines at different places, one of which lies inside the other. -/
def Nested (left right : Tree) : Prop :=
  byteRange left ≠ byteRange right ∧ (left.Inside right ∨ right.Inside left)

instance (left right : Tree) : Decidable (Nested left right) :=
  inferInstanceAs (Decidable (_ ∧ _))

def Flat (unit : SourceUnit) : Prop :=
  ∀ left ∈ unit.routineNodes, ∀ right ∈ unit.routineNodes, ¬ Nested left right

section Statements

variable {unit : SourceUnit} {node statement : Tree}

theorem statements_at_eq (unit : SourceUnit) (node : Tree) : unit.statementsAt node =
    ((node.field? unit.tree.subtrees.toArray .body).map Tree.statements).getD [] :=
  rfl

theorem exists_body (member : statement ∈ unit.statementsAt node) :
    ∃ body, node.field? unit.tree.subtrees.toArray .body = some body ∧
      statement ∈ body.statements := by
  rw [statements_at_eq] at member
  cases found : node.field? unit.tree.subtrees.toArray .body with
  | none => simp [found] at member
  | some body =>
      rw [found] at member
      exact ⟨body, rfl, member⟩

theorem statement_mem_tree (member : statement ∈ unit.statementsAt node) :
    statement ∈ unit.tree.subtrees := by
  obtain ⟨body, found, isStatement⟩ := exists_body member
  exact Tree.mem_subtrees_trans (Tree.statement_mem_subtrees isStatement)
    (Tree.mem_subtrees_of_field? found)

theorem statement_inside (placed : unit.Placed) (isPart : node ∈ unit.tree.subtrees)
    (member : statement ∈ unit.statementsAt node) : statement.Inside node := by
  obtain ⟨body, found, isStatement⟩ := exists_body member
  have inBody := Tree.inside_of_mem (placed.tree.of_mem (Tree.mem_subtrees_of_field? found))
    (Tree.statement_mem_subtrees isStatement)
  exact inBody.trans (placed.bodies node isPart body found)

theorem statements_at_ordered (placed : unit.Placed) (node : Tree) :
    (unit.statementsAt node).Pairwise Tree.EndsBefore := by
  rw [statements_at_eq]
  cases found : node.field? unit.tree.subtrees.toArray .body with
  | none => exact List.Pairwise.nil
  | some body =>
      exact Tree.statements_ordered (placed.tree.of_mem (Tree.mem_subtrees_of_field? found))

/-- Statements of routines listed one after the other are on rows in this order, unless the routines
are nested: a statement that begins too late is in a routine that the other one begins in. -/
theorem rows_of_range_before (placed : unit.Placed) {left right : Tree}
    (inLeft : left ∈ unit.routineNodes) (inRight : right ∈ unit.routineNodes)
    (before : RangeBefore (byteRange left) (byteRange right)) {earlier later : Tree}
    (isEarlier : earlier ∈ unit.statementsAt left) (isLater : later ∈ unit.statementsAt right) :
    earlier.root.startRow ≤ later.root.startRow ∨ Nested left right := by
  have leftPart := mem_subtrees_of_routine_node inLeft
  have rightPart := mem_subtrees_of_routine_node inRight
  have earlierPart := statement_mem_tree isEarlier
  have laterPart := statement_mem_tree isLater
  by_cases follows : earlier.root.startByte ≤ later.root.startByte
  · exact Or.inl (start_row_le placed earlierPart laterPart follows)
  · have inside := statement_inside placed leftPart isEarlier
    have otherInside := statement_inside placed rightPart isLater
    have proper := placed.tree.proper earlier earlierPart
    have leftProper := placed.tree.proper left leftPart
    have related := Tree.apart_or_inside placed.tree leftPart rightPart
    simp only [Tree.EndsBefore, Tree.Inside, RangeBefore, byteRange, Nested, Prod.ext_iff, ne_eq]
      at *
    omega

end Statements
end SourceUnit
end CodeAudit
