import CodeAudit.Proofs.Source.Placement
import Mathlib.Data.List.Lex

/-!
The routines of a unit. A path of child places leads from the root of a tree to each of its nodes,
and the order of the paths is the order in which the nodes are visited: a node before all that is
below it, and that before the later children. The routines are listed in the order of their bytes,
one for each range that some routine node has, at any depth. Sorting leaves nodes of the same range
in the order of their paths, so that the first of them is kept.
-/

namespace CodeAudit

namespace Tree

/-- The part that a path leads to. Each step is the place of a child among its siblings. -/
def descend? (tree : Tree) : List Nat → Option Tree
  | [] => some tree
  | place :: path => tree.children[place]?.bind fun child => child.descend? path

section Paths

variable {tree part : Tree}

theorem descend?_cons_eq_some_iff {place : Nat} {path : List Nat} :
    tree.descend? (place :: path) = some part ↔
      ∃ child, tree.children[place]? = some child ∧ child.descend? path = some part :=
  Option.bind_eq_some_iff

theorem mem_subtrees_of_descend? {path : List Nat} (leads : tree.descend? path = some part) :
    part ∈ tree.subtrees := by
  induction path generalizing tree with
  | nil =>
      cases leads
      exact self_mem_subtrees part
  | cons place path ih =>
      obtain ⟨child, atPlace, deeper⟩ := descend?_cons_eq_some_iff.mp leads
      exact mem_subtrees_of_child (List.mem_of_getElem? atPlace) (ih deeper)

/-- What is found below a node is found in one child, and nothing in the children before it. -/
theorem find?_forest_subtrees {forest : List Tree} {accepts : Tree → Bool}
    (found : (forestSubtrees forest).find? accepts = some part) :
    ∃ (place : Nat) (child : Tree), forest[place]? = some child ∧
      child.subtrees.find? accepts = some part ∧
      ∀ earlier < place, ∀ other : Tree, forest[earlier]? = some other →
        ∀ node ∈ other.subtrees, ¬ accepts node = true := by
  rw [forest_subtrees_eq_flat_map, List.find?_flatMap, List.findSome?_eq_some_iff] at found
  obtain ⟨before, child, after, split, inChild, nothing⟩ := found
  refine ⟨before.length, child, by simp [split], inChild, ?_⟩
  intro earlier inside other atEarlier
  rw [split, List.getElem?_append_left inside] at atEarlier
  exact List.find?_eq_none.mp (nothing other (List.mem_of_getElem? atEarlier))

/-- Looking through the parts of a tree finds the one with the first path. -/
theorem exists_first_path {accepts : Tree → Bool}
    (found : tree.subtrees.find? accepts = some part) :
    ∃ path, tree.descend? path = some part ∧ ∀ other node, tree.descend? other = some node →
      accepts node = true → path = other ∨ path < other := by
  induction tree using child_induction with
  | step tree ih =>
      obtain ⟨given, members⟩ := tree
      rw [subtrees] at found
      by_cases atRoot : accepts (node given members) = true
      · rw [List.find?_cons_of_pos atRoot] at found
        refine ⟨[], found, fun other _ _ _ => ?_⟩
        cases other with
        | nil => exact Or.inl rfl
        | cons place path => exact Or.inr (List.nil_lt_cons place path)
      · rw [List.find?_cons_of_neg atRoot] at found
        obtain ⟨place, child, atPlace, inChild, nothing⟩ := find?_forest_subtrees found
        obtain ⟨path, leads, first⟩ := ih child (List.mem_of_getElem? atPlace) inChild
        refine ⟨place :: path, descend?_cons_eq_some_iff.mpr ⟨child, atPlace, leads⟩, ?_⟩
        intro other reached otherLeads accepted
        cases other with
        | nil =>
            cases otherLeads
            exact absurd accepted atRoot
        | cons otherPlace below =>
            obtain ⟨sibling, atOther, deeper⟩ := descend?_cons_eq_some_iff.mp otherLeads
            -- In a child before this one it would have been found first.
            rcases Nat.lt_trichotomy otherPlace place with earlier | same | later
            · exact absurd accepted (nothing otherPlace earlier sibling atOther reached
                (mem_subtrees_of_descend? deeper))
            · subst same
              cases atPlace.symm.trans atOther
              rcases first below reached deeper accepted with equal | before
              · exact Or.inl (by rw [equal])
              · exact Or.inr (List.cons_lt_cons_iff.mpr (Or.inr ⟨rfl, before⟩))
            · exact Or.inr (List.cons_lt_cons_iff.mpr (Or.inl later))

end Paths
end Tree

def Routine.byteRange (routine : Routine) : Nat × Nat :=
  (routine.node.startByte, routine.node.endByte)

namespace SourceUnit

/-- The path leads to a named node of a kind that the language counts as routines. -/
structure RoutineAt (unit : SourceUnit) (path : List Nat) (node : Tree) : Prop where
  leads : unit.tree.descend? path = some node
  named : node.root.named = true
  kind : node.root.kind ∈ unit.language.routineKinds

section Discovery

variable {unit : SourceUnit} {node : Tree}

theorem is_routine_node_iff : unit.isRoutineNode node = true ↔
    node.root.named = true ∧ node.root.kind ∈ unit.language.routineKinds := by
  simp [isRoutineNode, Language.isRoutine]

theorem tied_range_le_iff (left right : Tree) :
    tied rangeLe left right = true ↔ byteRange right = byteRange left := by
  rw [tied_iff, range_le_iff, range_le_iff]
  simp only [RangeBefore, Prod.ext_iff]
  omega

/-- Sorting by ranges leaves the first node of a range in front of the others. -/
theorem find?_merge_sort_range (nodes : List Tree) (node : Tree) :
    (nodes.mergeSort rangeLe).find? (fun other => byteRange other = byteRange node) =
      nodes.find? (fun other => byteRange other = byteRange node) := by
  have sameRange : (fun other => decide (byteRange other = byteRange node)) =
      tied rangeLe node := by
    funext other
    rw [Bool.eq_iff_iff, decide_eq_true_eq, tied_range_le_iff]
  rw [sameRange, ← List.head?_filter, ← List.head?_filter, filter_tied_merge_sort range_le_order]

theorem routine_node_found (member : node ∈ unit.routineNodes) :
    (unit.tree.subtrees.filter unit.isRoutineNode).find?
      (fun other => byteRange other = byteRange node) = some node := by
  rw [← find?_merge_sort_range]
  exact find?_of_mem_first_of_runs RangeBefore.irrefl RangeBefore.trans (sorted_ranges _) member

theorem exists_routine_node {path : List Nat} (isRoutine : unit.RoutineAt path node) :
    ∃ kept ∈ unit.routineNodes, byteRange kept = byteRange node := by
  apply exists_mem_first_of_runs
  rw [List.mem_mergeSort, List.mem_filter, is_routine_node_iff]
  exact ⟨Tree.mem_subtrees_of_descend? isRoutine.leads, isRoutine.named, isRoutine.kind⟩

/-- The node that is kept has the first path of all routine nodes of its range. -/
theorem exists_path_of_routine_node (member : node ∈ unit.routineNodes) :
    ∃ path, unit.RoutineAt path node ∧ ∀ other same, unit.RoutineAt other same →
      byteRange same = byteRange node → path = other ∨ path < other := by
  have found := routine_node_found member
  rw [List.find?_filter] at found
  obtain ⟨path, leads, first⟩ := Tree.exists_first_path found
  have accepted := List.find?_some found
  rw [decide_eq_true_eq, is_routine_node_iff] at accepted
  refine ⟨path, ⟨leads, accepted.1.1, accepted.1.2⟩, ?_⟩
  intro other same isRoutine sameRange
  apply first other same isRoutine.leads
  rw [decide_eq_true_eq, is_routine_node_iff, decide_eq_true_eq]
  exact ⟨⟨isRoutine.named, isRoutine.kind⟩, sameRange⟩

end Discovery

/-- The routines are strictly ordered by their ranges of bytes. These are the ranges of all routine
nodes, and each routine is that of the first routine node of its range. -/
theorem routines_by_range (unit : SourceUnit) :
    (unit.routines.map Routine.byteRange).Pairwise RangeBefore ∧
      (∀ range, range ∈ unit.routines.map Routine.byteRange ↔
        ∃ path node, unit.RoutineAt path node ∧ byteRange node = range) ∧
      ∀ routine ∈ unit.routines, ∃ path node, unit.RoutineAt path node ∧
        routine = unit.routineOf unit.tree.subtrees.toArray node ∧
        ∀ other same, unit.RoutineAt other same → byteRange same = byteRange node →
          path = other ∨ path < other := by
  have ranges : unit.routines.map Routine.byteRange = unit.routineNodes.map byteRange := by
    rw [routines, List.map_map]
    rfl
  rw [ranges]
  refine ⟨List.pairwise_map.mpr (routine_nodes_ordered unit), ?_, ?_⟩
  · intro range
    constructor
    · intro listed
      obtain ⟨node, member, isRange⟩ := List.mem_map.mp listed
      obtain ⟨path, isRoutine, _⟩ := exists_path_of_routine_node member
      exact ⟨path, node, isRoutine, isRange⟩
    · rintro ⟨path, node, isRoutine, isRange⟩
      obtain ⟨kept, member, same⟩ := exists_routine_node isRoutine
      exact List.mem_map.mpr ⟨kept, member, same.trans isRange⟩
  · intro routine listed
    obtain ⟨node, member, isRoutine⟩ := List.mem_map.mp listed
    obtain ⟨path, atPath, first⟩ := exists_path_of_routine_node member
    exact ⟨path, node, atPath, isRoutine.symm, first⟩

end SourceUnit
end CodeAudit
