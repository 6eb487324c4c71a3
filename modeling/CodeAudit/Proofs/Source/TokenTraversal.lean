import CodeAudit.Proofs.Source.TokenLeaves
import Mathlib.Data.List.Infix

/-!
Tokens by recursion on the tree. Every leaf stands at the end of a branch, the nodes that lead from
the root to it. The tokens are the leaves, from left to right, that cover some text and have no
comment on their branch. A loop with a stack of trees finds them in no more steps than the tree has
nodes, for each step leaves less on the stack.
-/

namespace CodeAudit

section Comments

theorem occurs_in_iff (part text : List Char) : occursIn part text = true ↔ part <:+: text := by
  induction text with
  | nil => simp [occursIn]
  | cons character rest ih =>
      rw [occursIn, Bool.or_eq_true, List.isPrefixOf_iff_prefix, ih, List.infix_cons_iff]

theorem is_comment_iff (kind : String) :
    isComment kind = true ↔ "comment".toList <:+: kind.toList :=
  occurs_in_iff _ _

end Comments

namespace Tree

structure Branch where
  above : List Node
  leaf : Node

namespace Branch

def under (given : Node) (branch : Branch) : Branch :=
  ⟨given :: branch.above, branch.leaf⟩

def nodes (branch : Branch) : List Node :=
  branch.above ++ [branch.leaf]

/-- The leaf covers some text, and neither it nor a node above it is a comment. -/
structure IsToken (branch : Branch) : Prop where
  covers : branch.leaf.startByte < branch.leaf.endByte
  uncommented : ∀ given ∈ branch.nodes, ¬ "comment".toList <:+: given.kind.toList

instance (branch : Branch) : Decidable branch.IsToken :=
  decidable_of_iff (branch.leaf.startByte < branch.leaf.endByte ∧
      ∀ given ∈ branch.nodes, ¬ "comment".toList <:+: given.kind.toList)
    ⟨fun facts => ⟨facts.1, facts.2⟩, fun token => ⟨token.covers, token.uncommented⟩⟩

end Branch

mutual

def branches : Tree → List Branch
  | node given [] => [⟨[], given⟩]
  | node given (first :: others) => (forestBranches (first :: others)).map (Branch.under given)

def forestBranches : List Tree → List Branch
  | [] => []
  | tree :: rest => branches tree ++ forestBranches rest

end

def tokenBranches (tree : Tree) : List Branch :=
  tree.branches.filter fun branch => branch.IsToken

section Branches

theorem forest_branches_append (left right : List Tree) :
    forestBranches (left ++ right) = forestBranches left ++ forestBranches right := by
  induction left with
  | nil => rfl
  | cons tree rest ih =>
      rw [List.cons_append, forestBranches, forestBranches, ih, List.append_assoc]

theorem not_is_token_under {given : Node} (comment : isComment given.kind = true)
    (branch : Branch) : ¬ (branch.under given).IsToken := by
  intro token
  exact token.uncommented given (by simp [Branch.nodes, Branch.under])
    ((is_comment_iff given.kind).mp comment)

theorem is_token_under_iff {given : Node} (counted : ¬ isComment given.kind = true)
    (branch : Branch) : (branch.under given).IsToken ↔ branch.IsToken := by
  rw [is_comment_iff] at counted
  constructor
  · intro token
    exact ⟨token.covers,
      fun other member => token.uncommented other (List.mem_cons_of_mem _ member)⟩
  · intro token
    refine ⟨token.covers, fun other member => ?_⟩
    rcases List.mem_cons.mp member with same | deeper
    · rw [same]
      exact counted
    · exact token.uncommented other deeper

theorem is_token_leaf_iff (given : Node) : (⟨[], given⟩ : Branch).IsToken ↔
    given.startByte < given.endByte ∧ ¬ isComment given.kind = true := by
  rw [is_comment_iff]
  constructor
  · intro token
    exact ⟨token.covers, token.uncommented given (by simp [Branch.nodes])⟩
  · rintro ⟨covers, counted⟩
    exact ⟨covers, by simpa [Branch.nodes] using counted⟩

theorem token_branches_comment {given : Node} (members : List Tree)
    (comment : isComment given.kind = true) : tokenBranches (node given members) = [] := by
  apply List.filter_eq_nil_iff.mpr
  intro branch member
  rw [decide_eq_true_eq]
  cases members with
  | nil =>
      rw [branches, List.mem_singleton] at member
      rw [member, is_token_leaf_iff]
      exact fun facts => facts.2 comment
  | cons first others =>
      obtain ⟨inner, _, rfl⟩ := List.mem_map.mp member
      exact not_is_token_under comment inner

theorem token_branches_node {given : Node} {members : List Tree}
    (counted : ¬ isComment given.kind = true) (inner : members ≠ []) :
    tokenBranches (node given members) =
      ((forestBranches members).filter fun branch => branch.IsToken).map (Branch.under given) := by
  cases members with
  | nil => exact absurd rfl inner
  | cons first others =>
      rw [tokenBranches, branches, List.filter_map]
      congr 1
      apply List.filter_congr
      intro branch _
      exact decide_eq_decide.mpr (is_token_under_iff counted branch)

/-- The work list finds the tokens of the trees on it, one tree after the other. -/
theorem token_leaves_eq_forest_branches (stack : List Tree) :
    tokenLeaves stack =
      ((forestBranches stack).filter fun branch => branch.IsToken).map Branch.leaf := by
  fun_induction tokenLeaves stack with
  | case1 => rfl
  | case2 given members rest comment ih =>
      have none := token_branches_comment members comment
      rw [tokenBranches] at none
      rw [forestBranches, List.filter_append, none, List.nil_append, ih]
  | case3 given members rest counted isLeaf covers ih =>
      rw [List.isEmpty_iff.mp isLeaf, forestBranches, branches, List.singleton_append,
        List.filter_cons_of_pos (by simp [is_token_leaf_iff, covers, counted]),
        List.map_cons, ih]
  | case4 given members rest counted isLeaf covers ih =>
      rw [List.isEmpty_iff.mp isLeaf, forestBranches, branches, List.singleton_append,
        List.filter_cons_of_neg (by simp [is_token_leaf_iff, covers]),
        ih]
  | case5 given members rest counted notLeaf ih =>
      have inner : members ≠ [] := fun none => notLeaf (List.isEmpty_iff.mpr none)
      have below := token_branches_node counted inner
      rw [tokenBranches] at below
      rw [forestBranches, List.filter_append, below, List.map_append, List.map_map, ih,
        forest_branches_append, List.filter_append, List.map_append]
      rfl

theorem token_leaves_eq_token_branches (tree : Tree) :
    tokenLeaves [tree] = tree.tokenBranches.map Branch.leaf := by
  rw [token_leaves_eq_forest_branches, forestBranches, forestBranches, List.append_nil]
  rfl

end Branches

section Preorder

theorem preorder_node (given : Node) (members : List Tree) :
    (node given members).preorder =
      (given, members.length) :: members.flatMap preorder := by
  rw [preorder, subtrees, List.map_cons, forest_subtrees_eq_flat_map, List.map_flatMap]
  rfl

theorem flat_map_preorder_of_gather {nodes : List (Node × Nat)} {forest : List Tree}
    (gathered : nodes.foldr gather (some []) = some forest) : forest.flatMap preorder = nodes := by
  induction nodes generalizing forest with
  | nil =>
      cases gathered
      rfl
  | cons given rest ih =>
      rw [List.foldr_cons, gather, Option.bind_eq_some_iff] at gathered
      obtain ⟨trees, later, made⟩ := gathered
      split at made
      · next enough =>
          cases made
          rw [List.flatMap_cons, preorder_node, List.length_take_of_le enough, List.cons_append,
            ← List.flatMap_append, List.take_append_drop, ih later]
      · cases made

theorem gather_members (given : Node) (members rest : List Tree) :
    gather (given, members.length) (some (members ++ rest)) =
      some (node given members :: rest) := by
  rw [gather, Option.bind_some, if_pos (by simp), List.take_left, List.drop_left]

/-- The nodes of a tree in pre-order give the tree back, in front of the trees after it. -/
theorem foldr_gather_preorder (tree : Tree) (rest : List Tree) :
    tree.preorder.foldr gather (some rest) = some (tree :: rest) := by
  induction tree using child_induction generalizing rest with
  | step tree ih =>
      obtain ⟨given, members⟩ := tree
      have below : ∀ forest : List Tree, (∀ child ∈ forest, child ∈ members) →
          (forest.flatMap preorder).foldr gather (some rest) = some (forest ++ rest) := by
        intro forest known
        induction forest with
        | nil => rfl
        | cons child others induction =>
            rw [List.flatMap_cons, List.foldr_append,
              induction fun other member => known other (List.mem_cons_of_mem _ member)]
            exact ih child (known child List.mem_cons_self) _
      rw [preorder_node, List.foldr_cons, below members fun child member => member, gather_members]

theorem of_preorder?_eq_some_iff {nodes : List (Node × Nat)} {tree : Tree} :
    ofPreorder? nodes = some tree ↔ nodes = tree.preorder := by
  constructor
  · intro read
    rw [ofPreorder?] at read
    split at read
    · next only gathered =>
        cases read
        simpa using (flat_map_preorder_of_gather gathered).symm
    · cases read
  · rintro rfl
    rw [ofPreorder?, foldr_gather_preorder]

end Preorder

/-- The state of the loop: trees still to be visited, the next one last, and the texts found. -/
structure Traversal where
  stack : List Tree
  texts : List String

namespace Traversal

/-- One round of the loop, unless the stack is empty. The children of a tree are put on the stack
in reverse, so that the first of them is taken first. -/
def step (unit : SourceUnit) (state : Traversal) : Option Traversal :=
  state.stack.getLast?.map fun tree =>
    let below := state.stack.dropLast
    if isComment tree.root.kind then
      ⟨below, state.texts⟩
    else if tree.children.isEmpty then
      if tree.root.startByte < tree.root.endByte then
        ⟨below, state.texts ++ [unit.nodeText tree.root]⟩
      else
        ⟨below, state.texts⟩
    else
      ⟨below ++ tree.children.reverse, state.texts⟩

inductive Ends (unit : SourceUnit) : Traversal → Nat → List String → Prop where
  | done {state : Traversal} (empty : state.step unit = none) : Ends unit state 0 state.texts
  | more {state next : Traversal} {rounds : Nat} {texts : List String}
      (round : state.step unit = some next) (ends : Ends unit next rounds texts) :
      Ends unit state (rounds + 1) texts

def allTexts (unit : SourceUnit) (state : Traversal) : List String :=
  state.texts ++ (tokenLeaves state.stack.reverse).map unit.nodeText

def work (state : Traversal) : Nat :=
  forestSize state.stack.reverse

section Rounds

variable {unit : SourceUnit}

theorem step_eq_none_iff (state : Traversal) : state.step unit = none ↔ state.stack = [] := by
  rw [step, Option.map_eq_none_iff, List.getLast?_eq_none_iff]

/-- A round leaves less on the stack, and what it takes away is found. -/
theorem step_keeps_texts {state next : Traversal} (round : state.step unit = some next) :
    next.allTexts unit = state.allTexts unit ∧ next.work < state.work := by
  obtain ⟨stack, texts⟩ := state
  rw [step, Option.map_eq_some_iff] at round
  obtain ⟨tree, last, made⟩ := round
  obtain ⟨below, rfl⟩ := List.getLast?_eq_some_iff.mp last
  obtain ⟨given, members⟩ := tree
  subst made
  simp only [allTexts, work, List.dropLast_concat, List.reverse_append, List.reverse_singleton,
    List.singleton_append, tokenLeaves, root, children, forestSize, size]
  split
  · refine ⟨rfl, ?_⟩
    dsimp only
    omega
  · split
    · split
      · simp only [List.append_assoc, List.singleton_append, List.map_cons]
        exact ⟨trivial, by omega⟩
      · refine ⟨rfl, ?_⟩
        dsimp only
        omega
    · simp only [List.reverse_append, List.reverse_reverse, forest_size_append]
      exact ⟨trivial, by omega⟩

/-- The loop ends, after no more rounds than there are nodes on the stack. -/
theorem ends_within_work (unit : SourceUnit) (state : Traversal) :
    ∃ rounds ≤ state.work, Ends unit state rounds (state.allTexts unit) := by
  induction bound : state.work using Nat.strongRecOn generalizing state with
  | ind size ih =>
      cases round : state.step unit with
      | none =>
          have empty := (step_eq_none_iff state).mp round
          have found : state.allTexts unit = state.texts := by
            simp [allTexts, empty, tokenLeaves]
          exact ⟨0, Nat.zero_le _, found ▸ Ends.done round⟩
      | some next =>
          obtain ⟨same, less⟩ := step_keeps_texts round
          obtain ⟨rounds, within, ends⟩ := ih next.work (bound ▸ less) next rfl
          rw [same] at ends
          exact ⟨rounds + 1, by omega, Ends.more round ends⟩

end Rounds
end Traversal

/-- A tree is given by its nodes in pre-order. The loop that collects the tokens of a node ends
within as many rounds as its subtree has nodes. It gives the texts of the leaves, from left to
right, that cover some text and have no comment on their branch. Where children lie inside their
node and one after the other, the tokens follow one another as well. -/
theorem tokens_by_recursion (unit : SourceUnit) {tree part : Tree} {index : Nat}
    (found : tree.subtrees[index]? = some part) :
    (∀ nodes, ofPreorder? nodes = some tree ↔ nodes = tree.preorder) ∧
      tree.preorder[index]? = some (part.root, part.children.length) ∧
      (∃ rounds ≤ part.size, Traversal.Ends unit ⟨[part], []⟩ rounds (unit.tokens part)) ∧
      unit.tokens part = part.tokenBranches.map (fun branch => unit.nodeText branch.leaf) ∧
      (tree.Aligned → part.tokenBranches.Pairwise (fun left right =>
        left.leaf.endByte ≤ right.leaf.startByte) ∧
          ∀ branch ∈ part.tokenBranches, branch.leaf.startByte < branch.leaf.endByte) := by
  have isPart : part ∈ tree.subtrees := List.mem_of_getElem? found
  refine ⟨fun nodes => of_preorder?_eq_some_iff, ?_, ?_, ?_, ?_⟩
  · rw [preorder, List.getElem?_map, found]
    rfl
  · obtain ⟨rounds, within, ends⟩ := Traversal.ends_within_work unit ⟨[part], []⟩
    exact ⟨rounds, within, ends⟩
  · rw [SourceUnit.tokens, token_leaves_eq_token_branches, List.map_map]
    rfl
  · intro aligned
    have ordered := token_leaves_ordered_tree (aligned.of_mem isPart)
    rw [token_leaves_eq_token_branches, List.pairwise_map] at ordered
    refine ⟨ordered, fun branch member => ?_⟩
    have token : branch.IsToken := by simpa using (List.mem_filter.mp member).2
    exact token.covers

section Sample

def plainNode (kind : String) (startByte endByte : Nat) : Node :=
  ⟨kind, true, false, startByte, endByte, 0, 0, []⟩

/-- A call with a comment between its name and its argument. -/
def commentedCall : Tree :=
  node (plainNode "call" 0 11)
    [node (plainNode "identifier" 0 1) [],
      node (plainNode "block_comment" 2 9) [node (plainNode "text" 4 7) []],
      node (plainNode "identifier" 10 11) []]

def commentedFile : Tree :=
  node (plainNode "source_file" 0 11) [commentedCall]

def commentedUnit : SourceUnit :=
  ⟨"a.rs", ⟨"rust", ["rs"], ["function_item"]⟩, "a /* b */ c", commentedFile⟩

theorem tokens_by_recursion_commented :
    (∃ rounds ≤ 5, Traversal.Ends commentedUnit ⟨[commentedCall], []⟩ rounds ["a", "c"]) ∧
      commentedCall.tokenBranches.Pairwise fun left right =>
        left.leaf.endByte ≤ right.leaf.startByte := by
  have found : commentedFile.subtrees[1]? = some commentedCall := rfl
  have texts : commentedUnit.tokens commentedCall = ["a", "c"] := by decide +kernel
  obtain ⟨_, _, ends, _, ordered⟩ := tokens_by_recursion commentedUnit found
  rw [texts] at ends
  exact ⟨ends, (ordered (by decide)).1⟩

end Sample
end Tree
end CodeAudit
