import CodeAudit.Proofs.Source.Placement
import Mathlib.Data.List.Perm.Subperm

/-!
The leaves that make up the tokens. A list of trees has the leaves of its trees, one tree after the
other. In a placed tree they follow one another in the text, so that none is counted twice. A part
that is in no comment shares its leaves with the tree around it.
-/

namespace CodeAudit

namespace Tree

theorem token_leaves_append (left right : List Tree) :
    tokenLeaves (left ++ right) = tokenLeaves left ++ tokenLeaves right := by
  fun_induction tokenLeaves left with
  | case1 => rfl
  | case2 given members rest skipped ih =>
      rw [List.cons_append, tokenLeaves, if_pos skipped, ih]
  | case3 given members rest counted isLeaf covers ih =>
      rw [List.cons_append, tokenLeaves, if_neg counted, if_pos isLeaf, if_pos covers, ih]
      rfl
  | case4 given members rest counted isLeaf covers ih =>
      rw [List.cons_append, tokenLeaves, if_neg counted, if_pos isLeaf, if_neg covers, ih]
  | case5 given members rest counted isLeaf ih =>
      rw [List.cons_append, tokenLeaves, if_neg counted, if_neg isLeaf, ← List.append_assoc, ih]

theorem token_leaves_cons (tree : Tree) (rest : List Tree) :
    tokenLeaves (tree :: rest) = tokenLeaves [tree] ++ tokenLeaves rest :=
  token_leaves_append [tree] rest

theorem mem_token_leaves {leaf : Node} {forest : List Tree} :
    leaf ∈ tokenLeaves forest ↔ ∃ tree ∈ forest, leaf ∈ tokenLeaves [tree] := by
  induction forest with
  | nil => simp [tokenLeaves]
  | cons head rest ih => rw [token_leaves_cons, List.mem_append, ih, List.exists_mem_cons_iff]

/-- A leaf comes from the root of a tree without children, or from a child. -/
theorem mem_token_leaves_tree {leaf : Node} {tree : Tree} : leaf ∈ tokenLeaves [tree] ↔
    isComment tree.root.kind = false ∧
      (tree.children = [] ∧ leaf = tree.root ∧ leaf.startByte < leaf.endByte ∨
        ∃ child ∈ tree.children, leaf ∈ tokenLeaves [child]) := by
  cases tree with
  | node given members =>
      rw [tokenLeaves, List.append_nil]
      simp only [root, children]
      split
      · simp_all [tokenLeaves]
      · split
        · split
          · simp_all [tokenLeaves]
          · simp_all [tokenLeaves]
        · simp_all [@mem_token_leaves leaf members]

theorem leaf_covers {leaf : Node} {tree : Tree} (member : leaf ∈ tokenLeaves [tree]) :
    leaf.startByte < leaf.endByte := by
  induction tree using child_induction with
  | step tree ih =>
      rcases (mem_token_leaves_tree.mp member).2 with ⟨_, _, covers⟩ | ⟨child, isChild, deeper⟩
      · exact covers
      · exact ih child isChild deeper

/-- The children of every node lie inside it, one after the other. -/
structure Aligned (tree : Tree) : Prop where
  inside : ∀ part ∈ tree.subtrees, ∀ child ∈ part.children, child.Inside part
  ordered : ∀ part ∈ tree.subtrees, part.children.Pairwise EndsBefore

instance (tree : Tree) : Decidable tree.Aligned :=
  decidable_of_iff ((∀ part ∈ tree.subtrees, ∀ child ∈ part.children, child.Inside part) ∧
      ∀ part ∈ tree.subtrees, part.children.Pairwise EndsBefore)
    ⟨fun facts => ⟨facts.1, facts.2⟩, fun aligned => ⟨aligned.inside, aligned.ordered⟩⟩

theorem Placed.aligned {tree : Tree} (placed : tree.Placed) : tree.Aligned :=
  ⟨placed.inside, placed.ordered⟩

theorem Aligned.of_mem {part tree : Tree} (aligned : tree.Aligned)
    (member : part ∈ tree.subtrees) : part.Aligned := by
  constructor
  · intro inner deeper
    exact aligned.inside inner (mem_subtrees_trans deeper member)
  · intro inner deeper
    exact aligned.ordered inner (mem_subtrees_trans deeper member)

theorem leaf_inside {leaf : Node} {tree : Tree} (aligned : tree.Aligned)
    (member : leaf ∈ tokenLeaves [tree]) :
    tree.root.startByte ≤ leaf.startByte ∧ leaf.endByte ≤ tree.root.endByte := by
  induction tree using child_induction with
  | step tree ih =>
      rcases (mem_token_leaves_tree.mp member).2 with ⟨_, isRoot, _⟩ | ⟨child, isChild, deeper⟩
      · rw [isRoot]
        exact ⟨Nat.le_refl _, Nat.le_refl _⟩
      · have inChild := ih child isChild (aligned.of_mem (child_mem_subtrees isChild)) deeper
        have childInside := aligned.inside tree (self_mem_subtrees tree) child isChild
        exact ⟨Nat.le_trans childInside.1 inChild.1, Nat.le_trans inChild.2 childInside.2⟩

theorem covers_of_leaf {leaf : Node} {tree : Tree} (placed : tree.Placed)
    (member : leaf ∈ tokenLeaves [tree]) : tree.root.startByte < tree.root.endByte := by
  have covers := leaf_covers member
  have inside := leaf_inside placed.aligned member
  omega

/-- Trees in order have their leaves in order, once each tree has. -/
theorem token_leaves_ordered_of {forest : List Tree} (aligned : ∀ tree ∈ forest, tree.Aligned)
    (ordered : forest.Pairwise EndsBefore)
    (each : ∀ tree ∈ forest, (tokenLeaves [tree]).Pairwise fun left right =>
      left.endByte ≤ right.startByte) :
    (tokenLeaves forest).Pairwise fun left right => left.endByte ≤ right.startByte := by
  induction forest with
  | nil => simp [tokenLeaves]
  | cons head rest ih =>
      have parts := List.pairwise_cons.mp ordered
      rw [token_leaves_cons]
      apply List.pairwise_append.mpr
      refine ⟨each head (by simp), ih (fun tree member => aligned tree (by simp [member])) parts.2
        (fun tree member => each tree (by simp [member])), ?_⟩
      intro left inLeft right inRight
      obtain ⟨tree, member, inTree⟩ := mem_token_leaves.mp inRight
      have leftInside := leaf_inside (aligned head (by simp)) inLeft
      have rightInside := leaf_inside (aligned tree (by simp [member])) inTree
      exact Nat.le_trans leftInside.2 (Nat.le_trans (parts.1 tree member) rightInside.1)

theorem token_leaves_ordered_tree {tree : Tree} (aligned : tree.Aligned) :
    (tokenLeaves [tree]).Pairwise fun left right => left.endByte ≤ right.startByte := by
  induction tree using child_induction with
  | step tree ih =>
      have children := token_leaves_ordered_of
        (fun child isChild => aligned.of_mem (child_mem_subtrees isChild))
        (aligned.ordered tree (self_mem_subtrees tree))
        (fun child isChild => ih child isChild (aligned.of_mem (child_mem_subtrees isChild)))
      cases tree with
      | node given members =>
          rw [tokenLeaves, List.append_nil]
          split
          · simp [tokenLeaves]
          · split
            · split
              · simp [tokenLeaves]
              · simp [tokenLeaves]
            · exact children

theorem token_leaves_nodup {forest : List Tree} (placed : ∀ tree ∈ forest, tree.Placed)
    (ordered : forest.Pairwise EndsBefore) : (tokenLeaves forest).Nodup := by
  apply (token_leaves_ordered_of (fun tree member => (placed tree member).aligned) ordered
    fun tree member => token_leaves_ordered_tree (placed tree member).aligned).imp_of_mem
  intro left right inLeft _ before same
  obtain ⟨tree, _, inTree⟩ := mem_token_leaves.mp inLeft
  have covers := leaf_covers inTree
  rw [same] at covers before
  omega

theorem token_leaves_subset {part tree : Tree} (isPart : part ∈ tree.subtrees)
    (uncommented : ∀ middle ∈ tree.subtrees, part ∈ middle.subtrees →
      isComment middle.root.kind = false) : tokenLeaves [part] ⊆ tokenLeaves [tree] := by
  induction tree using child_induction with
  | step tree ih =>
      rcases mem_subtrees.mp isPart with same | ⟨child, isChild, deeper⟩
      · rw [same]
        exact List.Subset.refl _
      · intro leaf member
        have inside := ih child isChild deeper fun middle isMiddle =>
          uncommented middle (mem_subtrees_of_child isChild isMiddle)
        have inChild := inside member
        exact mem_token_leaves_tree.mpr ⟨uncommented tree (self_mem_subtrees tree) isPart,
          Or.inr ⟨child, isChild, inChild⟩⟩

/-- Trees in order whose leaves are all found in other trees have no more leaves than these. -/
theorem token_leaves_length_le {inner outer : List Tree} (placed : ∀ tree ∈ inner, tree.Placed)
    (ordered : inner.Pairwise EndsBefore)
    (found : ∀ tree ∈ inner, ∃ other ∈ outer, tokenLeaves [tree] ⊆ tokenLeaves [other]) :
    (tokenLeaves inner).length ≤ (tokenLeaves outer).length := by
  apply List.Subperm.length_le
  apply List.subperm_of_subset (token_leaves_nodup placed ordered)
  intro leaf member
  obtain ⟨tree, isInner, inTree⟩ := mem_token_leaves.mp member
  obtain ⟨other, isOuter, within⟩ := found tree isInner
  exact mem_token_leaves.mpr ⟨other, isOuter, within inTree⟩

end Tree
end CodeAudit
