import CodeAudit.Proofs.Clone.KeptGroups
import CodeAudit.Proofs.Clone.SourceOrder

/-!
What a dropped group is dropped for. Its locations lie in different locations of a reported group,
which so covers at least as many lines. It has no more tokens than that group either, copy by copy,
unless statements crowd a line: two of them meet on the first or the last line of the reported copy,
or a statement fills the lines of the reported copy, which is inside it.
-/

namespace CodeAudit

namespace Tree

def counts (tree : Tree) : Bool :=
  tree.root.named && !isComment tree.root.kind

/-- The lines of a tree reach from the first of two trees inside it to the last. -/
def FilledBy (outer first last : Tree) : Prop :=
  first.Inside outer ∧ last.Inside outer ∧ first.root.startRow = outer.root.startRow ∧
    last.root.endRow = outer.root.endRow

instance (outer first last : Tree) : Decidable (outer.FilledBy first last) :=
  inferInstanceAs (Decidable (_ ∧ _ ∧ _ ∧ _))

theorem mem_members {child tree : Tree} :
    child ∈ tree.members ↔ child ∈ tree.children ∧ child.counts = true := by
  rw [members, namedChildren, List.mem_filter, List.mem_filter, counts, Bool.and_eq_true, and_assoc]

section Around

variable {tree part : Tree} (placed : tree.Placed) (isPart : part ∈ tree.subtrees)
  (counted : ∀ middle ∈ tree.subtrees, part ∈ middle.subtrees → middle.counts = true)

include placed isPart counted

/-- A part lies in a member of a node, or around all of them, or on one side of all of them. -/
theorem members_around {holder : Tree} (isHolder : holder ∈ tree.subtrees) :
    (∃ member ∈ holder.members, part ∈ member.subtrees) ∨
      (∀ member ∈ holder.members, member.Inside part) ∨
      (∀ member ∈ holder.members, part.EndsBefore member) ∨
      ∀ member ∈ holder.members, member.EndsBefore part := by
  have inside : ∀ member ∈ holder.members, member.Inside holder := by
    intro member isMember
    exact placed.inside holder isHolder member ((members_sublist holder).subset isMember)
  rcases apart_or_part placed isPart isHolder with before | after | inHolder | holds
  · refine Or.inr (Or.inr (Or.inl fun member isMember => ?_))
    exact Nat.le_trans before (inside member isMember).1
  · refine Or.inr (Or.inr (Or.inr fun member isMember => ?_))
    exact Nat.le_trans (inside member isMember).2 after
  · rcases mem_subtrees.mp inHolder with same | ⟨child, isChild, deeper⟩
    · rw [same]
      exact Or.inr (Or.inl inside)
    · have inTree := mem_subtrees_trans (child_mem_subtrees isChild) isHolder
      exact Or.inl ⟨child, mem_members.mpr ⟨isChild, counted child inTree deeper⟩, deeper⟩
  · refine Or.inr (Or.inl fun member isMember => ?_)
    exact (inside member isMember).trans (inside_of_mem (placed.of_mem isPart) holds)

theorem statements_around {body : Tree} (isBody : body ∈ tree.subtrees) :
    (∃ statement ∈ body.statements, part ∈ statement.subtrees) ∨
      (∀ statement ∈ body.statements, statement.Inside part) ∨
      (∀ statement ∈ body.statements, part.EndsBefore statement) ∨
      ∀ statement ∈ body.statements, statement.EndsBefore part := by
  rw [statements]
  split
  · obtain ⟨holder, isHolder, unwrapped⟩ := exists_unwrapped body
    rw [unwrapped]
    exact members_around placed isPart counted (mem_subtrees_trans isHolder isBody)
  · simp only [List.mem_singleton, exists_eq_left, forall_eq]
    rcases apart_or_part placed isPart isBody with before | after | inBody | holds
    · exact Or.inr (Or.inr (Or.inl before))
    · exact Or.inr (Or.inr (Or.inr after))
    · exact Or.inl inBody
    · exact Or.inr (Or.inl (inside_of_mem (placed.of_mem isPart) holds))

end Around

end Tree

namespace SourceUnit

/-- What does not count has nothing in it that counts, and bodies count. -/
structure Counted (unit : SourceUnit) : Prop where
  parts : ∀ part ∈ unit.tree.subtrees, part.counts = false →
    ∀ child ∈ part.children, child.counts = false
  bodies : ∀ node ∈ unit.tree.subtrees,
    ∀ body ∈ node.field? unit.tree.subtrees.toArray .body, body.counts = true

instance (unit : SourceUnit) : Decidable unit.Counted :=
  decidable_of_iff ((∀ part ∈ unit.tree.subtrees, part.counts = false →
        ∀ child ∈ part.children, child.counts = false) ∧
      ∀ node ∈ unit.tree.subtrees,
        ∀ body ∈ node.field? unit.tree.subtrees.toArray .body, body.counts = true)
    ⟨fun facts => ⟨facts.1, facts.2⟩, fun counted => ⟨counted.parts, counted.bodies⟩⟩

def MeetAt (unit : SourceUnit) (line : Nat) : Prop :=
  ∃ left ∈ unit.routineNodes, ∃ right ∈ unit.routineNodes,
    ∃ earlier ∈ unit.codeStatements left, ∃ later ∈ unit.codeStatements right,
      earlier.EndsBefore later ∧ earlier.root.endRow + 1 = line ∧ later.root.startRow + 1 = line

/-- A statement has these lines, which statements inside it fill that are of another routine. -/
def EnclosedAt (unit : SourceUnit) (firstLine lastLine : Nat) : Prop :=
  ∃ left ∈ unit.routineNodes, ∃ right ∈ unit.routineNodes, Nested left right ∧
    ∃ statement ∈ unit.codeStatements left,
      statement.root.startRow + 1 = firstLine ∧ statement.root.endRow + 1 = lastLine ∧
      ∃ first ∈ unit.codeStatements right, ∃ last ∈ unit.codeStatements right,
        statement.FilledBy first last

def Crowded (unit : SourceUnit) (firstLine lastLine : Nat) : Prop :=
  unit.MeetAt firstLine ∨ unit.MeetAt lastLine ∨ unit.EnclosedAt firstLine lastLine

/-- No statement begins on the line on which an earlier one ends, and no statements fill the lines
of a statement around them. -/
structure Spaced (unit : SourceUnit) : Prop where
  apart : ∀ left ∈ unit.routineNodes, ∀ right ∈ unit.routineNodes,
    ∀ earlier ∈ unit.codeStatements left, ∀ later ∈ unit.codeStatements right,
      earlier.EndsBefore later → earlier.root.endRow ≠ later.root.startRow
  around : ∀ left ∈ unit.routineNodes, ∀ right ∈ unit.routineNodes, Nested left right →
    ∀ statement ∈ unit.codeStatements left, ∀ first ∈ unit.codeStatements right,
      ∀ last ∈ unit.codeStatements right, ¬ statement.FilledBy first last

theorem Spaced.not_meet_at {unit : SourceUnit} (spaced : unit.Spaced) (line : Nat) :
    ¬ unit.MeetAt line := by
  rintro ⟨left, isLeft, right, isRight, earlier, isEarlier, later, isLater, ends, stops, starts⟩
  exact spaced.apart left isLeft right isRight earlier isEarlier later isLater ends (by omega)

theorem Spaced.not_crowded {unit : SourceUnit} (spaced : unit.Spaced) (firstLine lastLine : Nat) :
    ¬ unit.Crowded firstLine lastLine := by
  rintro (meet | meet | ⟨left, isLeft, right, isRight, nested, statement, isStatement, _, _, first,
    isFirst, last, isLast, filled⟩)
  · exact spaced.not_meet_at firstLine meet
  · exact spaced.not_meet_at lastLine meet
  · exact spaced.around left isLeft right isRight nested statement isStatement first isFirst last
      isLast filled

section Runs

variable {unit : SourceUnit} {node statement : Tree}

theorem Counted.counts_of_part (counted : unit.Counted) {part outer : Tree}
    (isPart : part ∈ outer.subtrees) (inTree : outer ∈ unit.tree.subtrees)
    (code : part.counts = true) : outer.counts = true := by
  induction outer using Tree.child_induction with
  | step outer ih =>
      rcases Tree.mem_subtrees.mp isPart with same | ⟨child, isChild, deeper⟩
      · rw [← same]
        exact code
      · have childCounts := ih child isChild deeper
          (Tree.mem_subtrees_trans (Tree.child_mem_subtrees isChild) inTree)
        by_contra uncounted
        have childless := counted.parts outer inTree (Bool.not_eq_true _ ▸ uncounted) child isChild
        rw [childless] at childCounts
        cases childCounts

theorem Counted.statement_counts (counted : unit.Counted) (isPart : node ∈ unit.tree.subtrees)
    (isStatement : statement ∈ unit.statementsAt node) : statement.counts = true := by
  obtain ⟨body, found, inBody⟩ := exists_body isStatement
  rw [Tree.statements] at inBody
  split at inBody
  · obtain ⟨holder, _, unwrapped⟩ := Tree.exists_unwrapped body
    rw [unwrapped] at inBody
    exact (Tree.mem_members.mp inBody).2
  · rw [List.mem_singleton.mp inBody]
    exact counted.bodies node isPart body found

theorem statements_at_around (placed : unit.Placed) (counted : unit.Counted) (node : Tree)
    (isPart : statement ∈ unit.tree.subtrees) (code : statement.counts = true) :
    (∃ holder ∈ unit.statementsAt node, statement ∈ holder.subtrees) ∨
      (∀ other ∈ unit.statementsAt node, other.Inside statement) ∨
      (∀ other ∈ unit.statementsAt node, statement.EndsBefore other) ∨
      ∀ other ∈ unit.statementsAt node, other.EndsBefore statement := by
  rw [statements_at_eq]
  cases found : node.field? unit.tree.subtrees.toArray .body with
  | none => exact Or.inr (Or.inl (by simp))
  | some body =>
      exact Tree.statements_around placed.tree isPart
        (fun middle inTree inMiddle => counted.counts_of_part inMiddle inTree code)
        (Tree.mem_subtrees_of_field? found)

theorem Counted.leaves_subset (counted : unit.Counted) {part outer : Tree}
    (isPart : part ∈ outer.subtrees) (inTree : outer ∈ unit.tree.subtrees)
    (code : part.counts = true) : Tree.tokenLeaves [part] ⊆ Tree.tokenLeaves [outer] := by
  apply Tree.token_leaves_subset isPart
  intro middle inOuter inMiddle
  have middleCounts := counted.counts_of_part inMiddle (Tree.mem_subtrees_trans inOuter inTree) code
  rw [Tree.counts, Bool.and_eq_true, Bool.not_eq_true'] at middleCounts
  exact middleCounts.2

/-- Different routines that have a statement in common to their bytes are nested. -/
theorem nested_of_shared (placed : unit.Placed) {left right shared : Tree}
    (isLeft : left ∈ unit.routineNodes) (isRight : right ∈ unit.routineNodes)
    (different : left ≠ right) (inLeft : shared.Inside left) (inRight : shared.Inside right)
    (covers : shared.root.startByte < shared.root.endByte) : Nested left right := by
  constructor
  -- The order of routines is strict in their ranges.
  · rcases related_of_mem_pairwise (routine_nodes_ordered unit) isLeft isRight with
      same | before | after
    · exact absurd same different
    · intro same
      rw [same] at before
      simp only [RangeBefore] at before
      omega
    · intro same
      rw [same] at after
      simp only [RangeBefore] at after
      omega
  · rcases Tree.apart_or_inside placed.tree (mem_subtrees_of_routine_node isLeft)
      (mem_subtrees_of_routine_node isRight) with before | after | inside
    · simp only [Tree.EndsBefore, Tree.Inside] at *
      omega
    · simp only [Tree.EndsBefore, Tree.Inside] at *
      omega
    · exact inside

section Crowding

variable {outer : Span} {first last other : Tree} (placed : unit.Placed)
  (run : unit.RunAt outer node first last) (isOther : other ∈ unit.routineNodes)
  (isStatement : statement ∈ unit.codeStatements other)

include placed run isOther isStatement

theorem crowded_at_first (ends : statement.EndsBefore first)
    (reaches : first.root.startRow ≤ statement.root.endRow) :
    unit.Crowded (first.root.startRow + 1) (last.root.endRow + 1) := by
  have rows := rows_of_ends_before placed (code_statement_mem_tree isStatement)
    (code_statement_mem_tree run.first_mem) ends
  refine Or.inl ⟨other, isOther, node, run.node_mem, statement, isStatement, first, run.first_mem,
    ends, ?_, rfl⟩
  omega

theorem crowded_at_last (begins : last.EndsBefore statement)
    (reaches : statement.root.startRow ≤ last.root.endRow) :
    unit.Crowded (first.root.startRow + 1) (last.root.endRow + 1) := by
  have rows := rows_of_ends_before placed (code_statement_mem_tree run.last_mem)
    (code_statement_mem_tree isStatement) begins
  refine Or.inr (Or.inl ⟨node, run.node_mem, other, isOther, last, run.last_mem, statement,
    isStatement, begins, rfl, ?_⟩)
  omega

theorem crowded_around (different : other ≠ node) (firstInside : first.Inside statement)
    (lastInside : last.Inside statement) (starts : first.root.startRow ≤ statement.root.startRow)
    (stops : statement.root.endRow ≤ last.root.endRow) :
    unit.Crowded (first.root.startRow + 1) (last.root.endRow + 1) := by
  have isPart := code_statement_mem_tree isStatement
  have firstRows := rows_of_inside placed (code_statement_mem_tree run.first_mem) isPart firstInside
  have lastRows := rows_of_inside placed (code_statement_mem_tree run.last_mem) isPart lastInside
  have inOther := statement_inside placed (mem_subtrees_of_routine_node isOther)
    (mem_code_statements.mp isStatement).1
  have inNode := statement_inside placed (mem_subtrees_of_routine_node run.node_mem)
    (mem_code_statements.mp run.first_mem).1
  have nested := nested_of_shared placed isOther run.node_mem different
    (firstInside.trans inOther) inNode (code_statement_covers placed run.first_mem)
  have sameStart : first.root.startRow = statement.root.startRow := by omega
  have sameEnd : last.root.endRow = statement.root.endRow := by omega
  rw [sameStart, sameEnd]
  exact Or.inr (Or.inr ⟨other, isOther, node, run.node_mem, nested, statement, isStatement, rfl,
    rfl, first, run.first_mem, last, run.last_mem, firstInside, lastInside, sameStart, sameEnd⟩)

/-- A part of a statement of the routine is part of one in the run, unless a line is crowded. -/
theorem held_by_statement_or_crowded (counted : unit.Counted) {holder : Tree}
    (isHolder : holder ∈ unit.statementsAt node) (inHolder : statement ∈ holder.subtrees)
    (starts : first.root.startRow ≤ statement.root.startRow)
    (stops : statement.root.endRow ≤ last.root.endRow) :
    (∃ holder ∈ unit.runOf outer, Tree.tokenLeaves [statement] ⊆ Tree.tokenLeaves [holder]) ∨
      unit.Crowded (first.root.startRow + 1) (last.root.endRow + 1) := by
  obtain ⟨isListed, hasLeaves⟩ := mem_code_statements.mp isStatement
  have isPart := statement_mem_tree isListed
  have holderPart := statement_mem_tree isHolder
  have code := counted.statement_counts (mem_subtrees_of_routine_node isOther) isListed
  have within := counted.leaves_subset inHolder holderPart code
  have holderCode : holder ∈ unit.codeStatements node :=
    mem_code_statements.mpr ⟨isHolder, fun empty => hasLeaves (by simpa [empty] using within)⟩
  have proper := start_row_le_end_row placed isPart
  have rows := rows_of_inside placed isPart holderPart
    (Tree.inside_of_mem (placed.tree.of_mem holderPart) inHolder)
  rcases run.member_or_apart placed holderCode with inRun | ends | begins
  · exact Or.inl ⟨holder, inRun, within⟩
  · exact Or.inr (crowded_at_first placed run run.node_mem holderCode ends (by omega))
  · exact Or.inr (crowded_at_last placed run run.node_mem holderCode begins (by omega))

theorem held_or_crowded (counted : unit.Counted)
    (starts : first.root.startRow ≤ statement.root.startRow)
    (stops : statement.root.endRow ≤ last.root.endRow) :
    (∃ holder ∈ unit.runOf outer, Tree.tokenLeaves [statement] ⊆ Tree.tokenLeaves [holder]) ∨
      unit.Crowded (first.root.startRow + 1) (last.root.endRow + 1) := by
  have isListed := (mem_code_statements.mp isStatement).1
  have isFirst := (mem_code_statements.mp run.first_mem).1
  have isLast := (mem_code_statements.mp run.last_mem).1
  have isPart := statement_mem_tree isListed
  have proper := start_row_le_end_row placed isPart
  have code := counted.statement_counts (mem_subtrees_of_routine_node isOther) isListed
  -- Among the statements of the routine it is in one, around all, or on one side of all. It keeps
  -- its tokens in the first case only, and the others put it on a line of the run's ends.
  by_cases same : other = node
  · subst same
    exact held_by_statement_or_crowded placed run isOther isStatement counted isListed
      (Tree.self_mem_subtrees statement) starts stops
  · rcases statements_at_around placed counted node isPart code with
      ⟨holder, isHolder, inHolder⟩ | around | before | after
    · exact held_by_statement_or_crowded placed run isOther isStatement counted isHolder inHolder
        starts stops
    · exact Or.inr (crowded_around placed run isOther isStatement same (around first isFirst)
        (around last isLast) starts stops)
    · have ends := before first isFirst
      exact Or.inr (crowded_at_first placed run isOther isStatement ends (by omega))
    · have begins := after last isLast
      exact Or.inr (crowded_at_last placed run isOther isStatement begins (by omega))

end Crowding

/-- A run within the lines of another has no more tokens, unless a line is crowded. -/
theorem leaves_le_or_crowded (placed : unit.Placed) (counted : unit.Counted) {inner outer : Span}
    {innerNode innerFirst innerLast first last : Tree}
    (innerRun : unit.RunAt inner innerNode innerFirst innerLast)
    (run : unit.RunAt outer node first last)
    (starts : first.root.startRow ≤ innerFirst.root.startRow)
    (stops : innerLast.root.endRow ≤ last.root.endRow) :
    (Tree.tokenLeaves (unit.runOf inner)).length ≤ (Tree.tokenLeaves (unit.runOf outer)).length ∨
      unit.Crowded (first.root.startRow + 1) (last.root.endRow + 1) := by
  by_cases crowded : unit.Crowded (first.root.startRow + 1) (last.root.endRow + 1)
  · exact Or.inr crowded
  · left
    apply Tree.token_leaves_length_le
    · intro statement member
      exact placed.tree.of_mem (code_statement_mem_tree (innerRun.mem_code member))
    · exact innerRun.run_of_ordered placed
    · intro statement member
      have rows := innerRun.rows_of_mem placed member
      exact (held_or_crowded placed run innerRun.node_mem (innerRun.mem_code member) counted
        (Nat.le_trans starts rows.1) (Nat.le_trans rows.2 stops)).resolve_right crowded

end Runs
end SourceUnit

namespace DuplicationReport

section Tokens

variable {units : List SourceUnit} (placed : ∀ unit ∈ units, unit.Placed)
  (counted : ∀ unit ∈ units, unit.Counted)

include placed counted

/-- A span within the lines of another has no more tokens, unless they are in different units or a
line of the other is crowded. -/
theorem span_tokens_le_or_crowded {inner outer : Span}
    (innerWindow : IsWindow (visitedDigests units) inner)
    (outerWindow : IsWindow (visitedDigests units) outer)
    (contains : (spanLocation (visitedDigests units) outer).contains
      (spanLocation (visitedDigests units) inner) = true) :
    spanTokens (visitedDigests units) inner ≤ spanTokens (visitedDigests units) outer ∨
      inner.unit ≠ outer.unit ∨
      ∃ unit ∈ units, unit.path = (spanLocation (visitedDigests units) outer).path ∧
        unit.Crowded (spanLocation (visitedDigests units) outer).startLine
          (spanLocation (visitedDigests units) outer).endLine := by
  by_cases sameUnit : inner.unit = outer.unit
  · obtain ⟨unit, isUnit, inUnit⟩ := exists_unit_of_visited outerWindow
    have innerIn := inUnit
    rw [← sameUnit] at innerIn
    obtain ⟨_, _, _, run, place⟩ := exists_run_at inUnit outerWindow
    obtain ⟨_, _, _, innerRun, innerPlace⟩ := exists_run_at innerIn innerWindow
    rw [place, innerPlace] at contains
    simp only [Location.contains, Bool.and_eq_true, decide_eq_true_eq] at contains
    rw [place, span_tokens_eq innerIn, span_tokens_eq inUnit]
    rcases SourceUnit.leaves_le_or_crowded (placed unit isUnit) (counted unit isUnit) innerRun run
      (Nat.le_of_succ_le_succ contains.1.2) (Nat.le_of_succ_le_succ contains.2) with
      fewer | crowded
    · exact Or.inl fewer
    · exact Or.inr (Or.inr ⟨unit, isUnit, rfl, crowded⟩)
  · exact Or.inr (Or.inl sameUnit)

end Tokens

theorem unit_eq_of_path_eq {units : List SourceUnit}
    (paths : (units.map fun unit => unit.path).Nodup) {left right : Span}
    (leftWindow : IsWindow (visitedDigests units) left)
    (rightWindow : IsWindow (visitedDigests units) right)
    (same : (spanLocation (visitedDigests units) left).path =
      (spanLocation (visitedDigests units) right).path) : left.unit = right.unit := by
  obtain ⟨leftUnit, _, inLeft⟩ := exists_unit_of_visited leftWindow
  obtain ⟨rightUnit, _, inRight⟩ := exists_unit_of_visited rightWindow
  obtain ⟨_, _, _, _, leftPlace⟩ := exists_run_at inLeft leftWindow
  obtain ⟨_, _, _, _, rightPlace⟩ := exists_run_at inRight rightWindow
  rw [leftPlace, rightPlace] at same
  have sorted := visited_digests_paths paths
  rcases Nat.lt_trichotomy left.unit right.unit with earlier | equal | later
  · exact absurd same (related_of_get_elem? sorted earlier inLeft inRight).ne
  · exact equal
  · exact absurd same (related_of_get_elem? sorted later inRight inLeft).ne'

/-- Where paths differ and no statements crowd a line, a copy is inside one that is as large. -/
theorem exists_larger_copy {units : List SourceUnit} (placed : ∀ unit ∈ units, unit.Placed)
    (counted : ∀ unit ∈ units, unit.Counted) (paths : (units.map fun unit => unit.path).Nodup)
    (spaced : ∀ unit ∈ units, unit.Spaced) {dropped kept : Clone}
    (droppedWindows : ∀ span ∈ dropped.spans, IsWindow (visitedDigests units) span)
    (keptWindows : ∀ span ∈ kept.spans, IsWindow (visitedDigests units) span)
    (nested : (blockGroup (visitedDigests units) dropped).nestedIn
      (blockGroup (visitedDigests units) kept) = true) :
    ∀ inner ∈ dropped.spans, ∃ outer ∈ kept.spans,
      (spanLocation (visitedDigests units) outer).contains
        (spanLocation (visitedDigests units) inner) = true ∧
      spanTokens (visitedDigests units) inner ≤ spanTokens (visitedDigests units) outer := by
  intro inner inDropped
  obtain ⟨around, listed, contains⟩ := DuplicateGroup.exists_containing_of_nested_in nested
    (List.mem_map_of_mem inDropped)
  obtain ⟨outer, inKept, rfl⟩ := List.mem_map.mp listed
  have innerWindow := droppedWindows inner inDropped
  have outerWindow := keptWindows outer inKept
  refine ⟨outer, inKept, contains, ?_⟩
  rcases span_tokens_le_or_crowded placed counted innerWindow outerWindow contains with
    fewer | elsewhere | ⟨unit, isUnit, _, crowded⟩
  · exact fewer
  · simp only [Location.contains, Bool.and_eq_true, beq_iff_eq] at contains
    exact absurd (unit_eq_of_path_eq paths innerWindow outerWindow contains.1.1.symm) elsewhere
  · exact absurd crowded ((spaced unit isUnit).not_crowded _ _)

section Dropped

variable {hash : RunHash} {thresholds : Thresholds} {digests : List UnitDigest}

theorem exists_reported_around {dropped : Clone}
    (isShown : dropped ∈ shownClones hash thresholds digests)
    (unreported : blockGroup digests dropped ∉ (ofOrdered hash thresholds digests).groups) :
    ∃ kept ∈ shownClones hash thresholds digests,
      blockGroup digests kept ∈ (ofOrdered hash thresholds digests).groups ∧
        (blockGroup digests dropped).nestedIn (blockGroup digests kept) = true := by
  rcases DuplicateGroup.drop_nested_covers
    (List.mem_map_of_mem (f := blockGroup digests) isShown) with isKept | ⟨outer, isKept, nested⟩
  · exact absurd ((mem_groups_of_sub_block rfl).mpr isKept) unreported
  · obtain ⟨kept, keptShown, rfl⟩ := exists_shown_of_mem_drop_nested isKept
    exact ⟨kept, keptShown, (mem_groups_of_sub_block rfl).mpr isKept, nested⟩

theorem span_tokens_eq_of_mem_spans (coherent : Coherent hash digests) {clone : Clone}
    (member : clone ∈ Clone.search hash digests thresholds) {left right : Span}
    (inLeft : left ∈ clone.spans) (inRight : right ∈ clone.spans) :
    spanTokens digests left = spanTokens digests right := by
  have sound := Clone.sound_of_mem_search coherent member
  exact span_tokens_eq_of_same_content coherent
    ((sound.same left inLeft).trans (sound.same right inRight).symm)

end Dropped
end DuplicationReport

namespace Detector

open Ingestion DuplicationReport

/-- A clone is dropped for one whose group covers at least as many lines, with each location inside
a different one of that group. A copy has no more tokens than the one around it in the same unit,
unless statements crowd the first or the last line of that one. So where paths differ and no
statements crowd a line, each copy is inside one that is at least as large, and under a coherent
hash the copies of the dropped clone are at most as large as those of the other. -/
theorem dropped_group_lies_in_wider_group (thresholds : Thresholds) (calls : List Ingestion)
    (placed : ∀ unit ∈ ingested calls, unit.Placed)
    (counted : ∀ unit ∈ ingested calls, unit.Counted) :
    let digests := visitedDigests (ingested calls)
    let shown := shownClones Fingerprint.ofBytes thresholds digests
    let groups := ((new thresholds).run calls).finish.groups
    ∀ dropped ∈ shown, blockGroup digests dropped ∉ groups →
      (∃ kept ∈ shown, blockGroup digests kept ∈ groups ∧
        (blockGroup digests dropped).nestedIn (blockGroup digests kept) = true) ∧
      ∀ kept ∈ shown, blockGroup digests kept ∈ groups →
        (blockGroup digests dropped).nestedIn (blockGroup digests kept) = true →
        (blockGroup digests dropped).coveredLines ≤ (blockGroup digests kept).coveredLines ∧
        Assigned (dropped.spans.map (spanLocation digests))
          (kept.spans.map (spanLocation digests)) ∧
        (∀ inner ∈ dropped.spans, ∀ outer ∈ kept.spans,
          (spanLocation digests outer).contains (spanLocation digests inner) = true →
            spanTokens digests inner ≤ spanTokens digests outer ∨ inner.unit ≠ outer.unit ∨
              ∃ unit ∈ ingested calls, unit.path = (spanLocation digests outer).path ∧
                unit.Crowded (spanLocation digests outer).startLine
                  (spanLocation digests outer).endLine) ∧
        (((ingested calls).map fun unit => unit.path).Nodup →
          (∀ unit ∈ ingested calls, unit.Spaced) →
          (∀ inner ∈ dropped.spans, ∃ outer ∈ kept.spans,
            (spanLocation digests outer).contains (spanLocation digests inner) = true ∧
              spanTokens digests inner ≤ spanTokens digests outer) ∧
          (Coherent Fingerprint.ofBytes digests → ∀ inner ∈ dropped.spans, ∀ outer ∈ kept.spans,
            spanTokens digests inner ≤ spanTokens digests outer)) := by
  intro digests shown groups dropped isShown unreported
  have isReport : groups = (ofOrdered Fingerprint.ofBytes thresholds digests).groups :=
    groups_run thresholds calls
  constructor
  · rw [isReport] at unreported ⊢
    exact exists_reported_around isShown unreported
  · intro kept keptShown _ nested
    have windows : ∀ clone ∈ shown, ∀ span ∈ clone.spans, IsWindow digests span :=
      fun clone member span listed =>
        Clone.window_of_mem_spans (mem_shown_clones.mp member).1 listed
    refine ⟨DuplicateGroup.covered_lines_le_of_nested_in nested,
      DuplicateGroup.assigned_of_nested_in nested, ?_, fun paths spaced => ?_⟩
    · intro inner inDropped outer inKept contains
      exact span_tokens_le_or_crowded placed counted (windows dropped isShown inner inDropped)
        (windows kept keptShown outer inKept) contains
    have larger := exists_larger_copy placed counted paths spaced (windows dropped isShown)
      (windows kept keptShown) nested
    refine ⟨larger, fun coherent inner inDropped outer inKept => ?_⟩
    obtain ⟨around, isKept, _, fewer⟩ := larger inner inDropped
    rw [span_tokens_eq_of_mem_spans coherent (mem_shown_clones.mp keptShown).1 inKept isKept]
    exact fewer

end Detector

namespace SourceUnit

/-- Two routines, each around a routine that is the same in both. -/
def stackedUnit : SourceUnit :=
  ofRoutines ("fn f() \x7b\nfn g() \x7b\na();\n\x7d\n\x7d\n" ++
      "fn h() \x7b\nfn g() \x7b\na();\n\x7d\n\x7d\n") 54 10
    [.routineAt 1 0 26 0 4 [.routineAt 9 9 24 1 3 [.callAt 18 22 2 []]],
      .routineAt 26 27 53 5 9 [.routineAt 34 36 51 6 8 [.callAt 45 49 7 []]]]

def stackedRoutines : List RoutineDigest :=
  [⟨[⟨routineHash, 10, 2, 4⟩]⟩, ⟨[⟨callHash, 4, 3, 3⟩]⟩, ⟨[⟨routineHash, 10, 7, 9⟩]⟩,
    ⟨[⟨callHash, 4, 8, 8⟩]⟩]

theorem stacked_unit_nodes : stackedUnit.routineNodes =
    [.routineAt 1 0 26 0 4 [.routineAt 9 9 24 1 3 [.callAt 18 22 2 []]],
      .routineAt 9 9 24 1 3 [.callAt 18 22 2 []],
      .routineAt 26 27 53 5 9 [.routineAt 34 36 51 6 8 [.callAt 45 49 7 []]],
      .routineAt 34 36 51 6 8 [.callAt 45 49 7 []]] := by
  cbv

theorem stacked_unit_routines : (UnitDigest.ofUnit stackedUnit).routines = stackedRoutines := by
  rw [UnitDigest.routines_of_unit, codeRoutines, stacked_unit_nodes]
  decide +kernel

theorem stacked_unit_placed : stackedUnit.Placed := by
  decide +kernel

theorem stacked_unit_counted : stackedUnit.Counted := by
  decide +kernel

theorem stacked_unit_spaced : stackedUnit.Spaced := by
  constructor
  · rw [stacked_unit_nodes]
    decide +kernel
  · rw [stacked_unit_nodes]
    decide +kernel

end SourceUnit

namespace Detector

open Ingestion DuplicationReport SourceUnit

theorem stacked_search (unit : SourceUnit) :
    Clone.search Clone.plainHash [unit.digestBy stackedRoutines] ⟨50, 1, 1⟩ =
      [⟨routineHash, ⟨0, 0, 0, 1⟩, [⟨0, 2, 0, 1⟩]⟩, ⟨callHash, ⟨0, 1, 0, 1⟩, [⟨0, 3, 0, 1⟩]⟩] := by
  rw [digestBy]
  generalize UnitDigest.ofUnit unit = rest
  cbv

theorem stacked_kept (unit : SourceUnit) (first second : Fingerprint) :
    DuplicateGroup.dropNested
        [blockGroup [unit.digestBy stackedRoutines] ⟨first, ⟨0, 0, 0, 1⟩, [⟨0, 2, 0, 1⟩]⟩,
          blockGroup [unit.digestBy stackedRoutines] ⟨second, ⟨0, 1, 0, 1⟩, [⟨0, 3, 0, 1⟩]⟩] =
      [blockGroup [unit.digestBy stackedRoutines] ⟨first, ⟨0, 0, 0, 1⟩, [⟨0, 2, 0, 1⟩]⟩] := by
  rw [digestBy]
  generalize UnitDigest.ofUnit unit = rest
  cbv

/-- Clones of different content have different groups. -/
theorem block_group_ne {digests : List UnitDigest} (coherent : Coherent Fingerprint.ofBytes digests)
    {left right : Clone} (leftWindow : IsWindow digests left.first)
    (rightWindow : IsWindow digests right.first)
    (different : spanHashes digests left.first ≠ spanHashes digests right.first) :
    blockGroup digests (left.rehashed Fingerprint.ofBytes digests) ≠
      blockGroup digests (right.rehashed Fingerprint.ofBytes digests) := by
  intro same
  exact different (coherent.separates _ _ leftWindow rightWindow
    (congrArg DuplicateGroup.fingerprint same))

theorem stacked_coherent : Coherent Fingerprint.ofBytes [stackedUnit.digestBy stackedRoutines] := by
  decide +kernel

theorem stacked_report :
    shownClones Fingerprint.ofBytes ⟨50, 1, 1⟩ (visitedDigests [stackedUnit]) =
        [Clone.rehashed Fingerprint.ofBytes [stackedUnit.digestBy stackedRoutines]
            ⟨routineHash, ⟨0, 0, 0, 1⟩, [⟨0, 2, 0, 1⟩]⟩,
          Clone.rehashed Fingerprint.ofBytes [stackedUnit.digestBy stackedRoutines]
            ⟨callHash, ⟨0, 1, 0, 1⟩, [⟨0, 3, 0, 1⟩]⟩] ∧
      ((new ⟨50, 1, 1⟩).run [.single stackedUnit]).finish.groups =
        [blockGroup [stackedUnit.digestBy stackedRoutines]
          (Clone.rehashed Fingerprint.ofBytes [stackedUnit.digestBy stackedRoutines]
            ⟨routineHash, ⟨0, 0, 0, 1⟩, [⟨0, 2, 0, 1⟩]⟩)] := by
  have plain : Coherent Clone.plainHash [stackedUnit.digestBy stackedRoutines] := by decide +kernel
  exact report_sample_pair ⟨50, 1, 1⟩ rfl stacked_unit_routines (by decide +kernel) stacked_coherent
    plain (stacked_search stackedUnit) (stacked_kept stackedUnit)

/-- The routine inside the repeated one is dropped, and is smaller. -/
theorem dropped_group_lies_in_wider_group_stacked :
    let digests := visitedDigests [stackedUnit]
    let shown := shownClones Fingerprint.ofBytes ⟨50, 1, 1⟩ digests
    let groups := ((new ⟨50, 1, 1⟩).run [.single stackedUnit]).finish.groups
    ∃ dropped ∈ shown, blockGroup digests dropped ∉ groups ∧
      ∃ kept ∈ shown, blockGroup digests kept ∈ groups ∧
        ∀ inner ∈ dropped.spans, ∃ outer ∈ kept.spans,
          (spanLocation digests outer).contains (spanLocation digests inner) = true ∧
            spanTokens digests inner ≤ spanTokens digests outer := by
  intro digests shown groups
  have placed : ∀ unit ∈ ingested [.single stackedUnit], unit.Placed := by
    simpa [ingested, units] using stacked_unit_placed
  have counted : ∀ unit ∈ ingested [.single stackedUnit], unit.Counted := by
    simpa [ingested, units] using stacked_unit_counted
  have spaced : ∀ unit ∈ ingested [.single stackedUnit], unit.Spaced := by
    simpa [ingested, units] using stacked_unit_spaced
  have paths : ((ingested [.single stackedUnit]).map fun unit => unit.path).Nodup := by
    simp [ingested, units]
  have visited := visited_sample (show stackedUnit.path = "a.rs" from rfl) stacked_unit_routines
  obtain ⟨dropped, isShown, unreported⟩ :
      ∃ dropped ∈ shown, blockGroup digests dropped ∉ groups := by
    simp only [shown, groups, digests, stacked_report.1, stacked_report.2]
    refine ⟨_, List.mem_cons_of_mem _ List.mem_cons_self, ?_⟩
    rw [visited, List.mem_singleton]
    exact block_group_ne stacked_coherent (by decide) (by decide) (by decide)
  obtain ⟨⟨kept, keptShown, reported, nested⟩, compared⟩ := dropped_group_lies_in_wider_group
    ⟨50, 1, 1⟩ [.single stackedUnit] placed counted dropped isShown unreported
  have larger := (compared kept keptShown reported nested).2.2.2 paths spaced
  exact ⟨dropped, isShown, unreported, kept, keptShown, reported, larger.1⟩

/-- Of two clones on the same lines the smaller one is reported. -/
theorem larger_clone_dropped :
    let digests := visitedDigests [pairedUnit]
    let shown := shownClones Fingerprint.ofBytes ⟨5, 1, 1⟩ digests
    let groups := ((new ⟨5, 1, 1⟩).run [.single pairedUnit]).finish.groups
    pairedUnit.Placed ∧ pairedUnit.Counted ∧
      ∃ dropped ∈ shown, ∃ kept ∈ shown, blockGroup digests dropped ∉ groups ∧
        blockGroup digests kept ∈ groups ∧
        (blockGroup digests dropped).nestedIn (blockGroup digests kept) = true ∧
        ∀ inner ∈ dropped.spans, ∀ outer ∈ kept.spans,
          spanTokens digests outer < spanTokens digests inner := by
  intro digests shown groups
  have visited := visited_sample (show pairedUnit.path = "a.rs" from rfl) paired_unit_routines
  refine ⟨paired_unit_placed, by decide +kernel, ?_⟩
  simp only [shown, groups, digests, paired_report.1, paired_report.2]
  refine ⟨_, List.mem_cons_of_mem _ List.mem_cons_self, _, List.mem_cons_self, ?_⟩
  rw [visited, List.mem_singleton]
  refine ⟨?_, List.mem_cons_self, by decide, by decide⟩
  exact block_group_ne paired_coherent (by decide) (by decide) (by decide)

end Detector
end CodeAudit
