import CodeAudit.Proofs.Clone.SearchParameters
import CodeAudit.Proofs.Clone.UnitRuns
import CodeAudit.Proofs.Clone.WholeGroups

/-!
The order in which a group lists its locations. Paths are in order, and in one unit the locations
follow its routines and the statements of each. So they are in the order of the text as long as no
routine lies inside another: the statements of a routine are listed before those of a routine inside
it, also where these come first in the text.
-/

namespace CodeAudit

namespace Location

def InOrder (left right : Location) : Prop :=
  left.path < right.path ∨ left.path = right.path ∧ left.startLine ≤ right.startLine

end Location

namespace SourceUnit

/-- A statement begins on each of the lines, and of the routines that they are in, one lies inside
the other. -/
def NestedAt (unit : SourceUnit) (line other : Nat) : Prop :=
  ∃ left ∈ unit.routineNodes, ∃ right ∈ unit.routineNodes, Nested left right ∧
    (∃ statement ∈ unit.codeStatements left, statement.root.startRow + 1 = line) ∧
    ∃ statement ∈ unit.codeStatements right, statement.root.startRow + 1 = other

theorem Flat.not_nested_at {unit : SourceUnit} (flat : unit.Flat) (line other : Nat) :
    ¬ unit.NestedAt line other := by
  rintro ⟨left, inLeft, right, inRight, nested, _⟩
  exact flat left inLeft right inRight nested

/-- Runs follow the text in the order of their spans, unless they are in nested routines. -/
theorem start_row_le_or_nested_at {unit : SourceUnit} (placed : unit.Placed) {left right : Span}
    {leftNode leftFirst leftLast rightNode rightFirst rightLast : Tree}
    (leftRun : unit.RunAt left leftNode leftFirst leftLast)
    (rightRun : unit.RunAt right rightNode rightFirst rightLast)
    (sameUnit : left.unit = right.unit) (before : left.Before right) :
    leftFirst.root.startRow ≤ rightFirst.root.startRow ∨
      unit.NestedAt (leftFirst.root.startRow + 1) (rightFirst.root.startRow + 1) := by
  have isLeft := (mem_code_statements.mp leftRun.first_mem).1
  have isRight := (mem_code_statements.mp rightRun.first_mem).1
  -- The statements of one routine follow one another. Of two routines the one listed first may be
  -- around the other, and then its statements can stand on either side.
  by_cases sameRoutine : left.routine = right.routine
  · have sameNode := leftRun.routine
    rw [sameRoutine, rightRun.routine, Option.some.injEq] at sameNode
    subst sameNode
    by_cases sameStart : left.start = right.start
    · have same := leftRun.atStart
      rw [sameStart, rightRun.atStart, Option.some.injEq] at same
      rw [same]
      exact Or.inl (Nat.le_refl _)
    · have earlier : left.start < right.start := by
        simp only [Span.Before, Span.Precedes] at before
        omega
      have ends := related_of_get_elem? (code_statements_ordered placed rightNode) earlier
        leftRun.atStart rightRun.atStart
      have proper := placed.tree.proper leftFirst (statement_mem_tree isLeft)
      exact Or.inl (start_row_le placed (statement_mem_tree isLeft) (statement_mem_tree isRight)
        (Nat.le_trans proper ends))
  · have earlier : left.routine < right.routine := by
      simp only [Span.Before, Span.Precedes] at before
      omega
    have listed := related_of_get_elem? ((routine_nodes_ordered unit).filter _) earlier
      leftRun.routine rightRun.routine
    rcases rows_of_range_before placed leftRun.node_mem rightRun.node_mem listed isLeft isRight
      with follows | nested
    · exact Or.inl follows
    · exact Or.inr ⟨leftNode, leftRun.node_mem, rightNode, rightRun.node_mem, nested,
        ⟨leftFirst, leftRun.first_mem, rfl⟩, rightFirst, rightRun.first_mem, rfl⟩

end SourceUnit

/-- In order, or in a unit at lines that begin statements of nested routines. -/
def Location.InOrderUnlessNested (units : List SourceUnit) (left right : Location) : Prop :=
  left.InOrder right ∨ left.path = right.path ∧
    ∃ unit ∈ units, unit.path = left.path ∧ unit.NestedAt left.startLine right.startLine

namespace Clone

section Spans

variable {hash : RunHash} {digests : List UnitDigest} {thresholds : Thresholds}

theorem spans_of_of_spans? {print : Fingerprint} {spans : List Span} {clone : Clone}
    (made : ofSpans? print spans = some clone) : clone.spans = spans := by
  match spans with
  | [] => cases made
  | [_] => cases made
  | first :: second :: rest =>
      rw [← Option.some.inj made]
      rfl

/-- Whatever the hash, the spans of a clone are windows in the order in which they are visited. -/
theorem spans_sublist {clone : Clone} (member : clone ∈ search hash digests thresholds) :
    clone.spans.Sublist (allSpans digests) := by
  obtain ⟨print, _, made⟩ := List.mem_filterMap.mp member
  have visited : (windows hash digests).map (fun window => window.span) = allSpans digests := by
    rw [windows, List.map_map]
    exact List.map_id _
  rw [spans_of_of_spans? made, ← visited]
  exact (spread_sublist none _).trans (List.filter_sublist.map _)

theorem window_of_mem_spans {clone : Clone} (member : clone ∈ search hash digests thresholds)
    {span : Span} (listed : span ∈ clone.spans) : IsWindow digests span :=
  mem_all_spans.mp ((spans_sublist member).subset listed)

end Spans
end Clone

namespace DuplicationReport

section Ordered

variable {units : List SourceUnit} {thresholds : Thresholds} {hash : RunHash}

/-- The digests in the order in which they are visited. -/
def visitedDigests (units : List SourceUnit) : List UnitDigest :=
  (units.map UnitDigest.ofUnit).mergeSort UnitDigest.le

theorem exists_unit_of_visited {span : Span} (window : IsWindow (visitedDigests units) span) :
    ∃ unit ∈ units, (visitedDigests units)[span.unit]? = some (UnitDigest.ofUnit unit) := by
  obtain ⟨digest, found⟩ := exists_digest_of_window window
  have member := List.mem_of_getElem? found
  rw [visitedDigests, List.mem_mergeSort] at member
  obtain ⟨unit, isUnit, rfl⟩ := List.mem_map.mp member
  exact ⟨unit, isUnit, found⟩

theorem groups_run (thresholds : Thresholds) (calls : List Ingestion) :
    ((Detector.new thresholds).run calls).finish.groups = (ofOrdered Fingerprint.ofBytes thresholds
      (visitedDigests (Ingestion.ingested calls))).groups := by
  rw [Detector.finish_run]
  rfl

theorem visited_digests_by_path (units : List SourceUnit) :
    (visitedDigests units).Pairwise fun left right => left.path ≤ right.path :=
  (merge_sort_sorted UnitDigest.le_order _).imp UnitDigest.path_le_of_le

theorem visited_digests_paths (paths : (units.map fun unit => unit.path).Nodup) :
    (visitedDigests units).Pairwise fun left right => left.path < right.path := by
  have distinct : ((visitedDigests units).map fun digest => digest.path).Nodup := by
    apply ((List.mergeSort_perm _ _).map _).nodup_iff.mpr
    rw [List.map_map]
    exact paths
  apply ((visited_digests_by_path units).and (List.pairwise_map.mp distinct)).imp
  rintro left right ⟨sorted, different⟩
  exact lt_of_le_of_ne sorted different

theorem class_group_in_order (print : Fingerprint) :
    (classGroup thresholds (visitedDigests units) print).locations.Pairwise Location.InOrder := by
  rw [classGroup]
  apply List.pairwise_map.mpr
  apply ((visited_digests_by_path units).filter _).imp
  intro left right sorted
  rcases lt_or_eq_of_le sorted with earlier | same
  · exact Or.inl earlier
  · exact Or.inr ⟨same, Nat.le_refl _⟩

theorem block_group_in_order (paths : (units.map fun unit => unit.path).Nodup)
    (placed : ∀ unit ∈ units, unit.Placed) {clone : Clone}
    (found : clone ∈ Clone.search hash (visitedDigests units) thresholds) :
    (blockGroup (visitedDigests units) clone).locations.Pairwise
      (Location.InOrderUnlessNested units) := by
  apply List.pairwise_map.mpr
  apply ((all_spans_ordered _).sublist (Clone.spans_sublist found)).imp_of_mem
  intro left right inLeft inRight before
  have leftWindow := Clone.window_of_mem_spans found inLeft
  have rightWindow := Clone.window_of_mem_spans found inRight
  obtain ⟨leftUnit, isLeft, atLeft⟩ := exists_unit_of_visited leftWindow
  obtain ⟨rightUnit, _, atRight⟩ := exists_unit_of_visited rightWindow
  obtain ⟨_, _, _, leftRun, leftPlace⟩ := exists_run_at atLeft leftWindow
  by_cases sameUnit : left.unit = right.unit
  · rw [← sameUnit] at atRight
    obtain ⟨_, _, _, rightRun, rightPlace⟩ := exists_run_at (sameUnit ▸ atLeft) rightWindow
    rw [leftPlace, rightPlace]
    rcases SourceUnit.start_row_le_or_nested_at (placed leftUnit isLeft) leftRun rightRun sameUnit
      before with follows | nested
    · exact Or.inl (Or.inr ⟨rfl, Nat.succ_le_succ follows⟩)
    · exact Or.inr ⟨rfl, leftUnit, isLeft, rfl, nested⟩
  · obtain ⟨_, _, _, _, rightPlace⟩ := exists_run_at atRight rightWindow
    have earlier : left.unit < right.unit := by
      simp only [Span.Before, Span.Precedes] at before
      omega
    rw [leftPlace, rightPlace]
    exact Or.inl (Or.inl
      (related_of_get_elem? (visited_digests_paths paths) earlier atLeft atRight))

theorem class_or_block {digests : List UnitDigest} {group : DuplicateGroup}
    (member : group ∈ (ofOrdered hash thresholds digests).groups) :
    (∃ print ∈ groupedPrints thresholds digests, group = classGroup thresholds digests print) ∨
      ∃ clone ∈ Clone.search hash digests thresholds, group = blockGroup digests clone := by
  rw [groups_eq, List.mem_mergeSort, List.mem_append, whole_groups_eq] at member
  rcases member with isWhole | isBlock
  · obtain ⟨print, grouped, same⟩ := List.mem_map.mp isWhole
    exact Or.inl ⟨print, grouped, same.symm⟩
  · obtain ⟨clone, shown, same⟩ := exists_shown_of_mem_drop_nested isBlock
    exact Or.inr ⟨clone, (mem_shown_clones.mp shown).1, same⟩

theorem locations_ne_nil {digests : List UnitDigest} {group : DuplicateGroup}
    (member : group ∈ (ofOrdered hash thresholds digests).groups) : group.locations ≠ [] := by
  rcases class_or_block member with ⟨print, grouped, rfl⟩ | ⟨clone, _, rfl⟩
  · intro empty
    have several := mem_grouped_prints.mp grouped
    rw [List.map_eq_nil_iff.mp empty] at several
    cases several
  · exact List.cons_ne_nil _ _

theorem start_line_pos {group : DuplicateGroup}
    (member : group ∈ (ofOrdered hash thresholds (visitedDigests units)).groups)
    {location : Location} (listed : location ∈ group.locations) : 1 ≤ location.startLine := by
  rcases class_or_block member with ⟨print, _, rfl⟩ | ⟨clone, found, rfl⟩
  · obtain ⟨digest, _, rfl⟩ := List.mem_map.mp listed
    exact Nat.le_refl 1
  · obtain ⟨span, inClone, rfl⟩ := List.mem_map.mp listed
    have window := Clone.window_of_mem_spans found inClone
    obtain ⟨unit, _, inUnit⟩ := exists_unit_of_visited window
    obtain ⟨_, _, _, _, place⟩ := exists_run_at inUnit window
    rw [place]
    exact Nat.le_add_left 1 _

end Ordered
end DuplicationReport

theorem DuplicateGroup.drop_nested_singleton (group : DuplicateGroup) :
    dropNested [group] = [group] := by
  simp [dropNested, keepUnlessNested]

theorem DuplicateGroup.finding_at_head {group : DuplicateGroup} {first : Location}
    (isHead : group.locations.head? = some first) (positive : 1 ≤ first.startLine) :
    group.finding.sourcePath = first.path ∧ group.finding.line = first.startLine := by
  simp only [finding, Finding.make, Finding.withProperty, isHead, Option.map_some, Option.getD_some]
  exact ⟨trivial, Nat.max_eq_left positive⟩

namespace Detector

open Ingestion DuplicationReport

/-- Units with different paths are listed in order of their paths, and the locations of one unit in
the order of its text, except that a location in a routine can be listed before an earlier one in a
routine nested with it. Where no routines are nested, the finding is at the first location of the
text. -/
theorem locations_in_source_order (thresholds : Thresholds) (calls : List Ingestion)
    (paths : ((ingested calls).map fun unit => unit.path).Nodup)
    (placed : ∀ unit ∈ ingested calls, unit.Placed) :
    ∀ group ∈ ((new thresholds).run calls).finish.groups,
      (∃ first, group.locations.head? = some first ∧ group.finding.sourcePath = first.path ∧
        group.finding.line = first.startLine) ∧
      group.locations.Pairwise (Location.InOrderUnlessNested (ingested calls)) ∧
      ((∀ unit ∈ ingested calls, unit.Flat) →
        group.locations.Pairwise Location.InOrder ∧
          ∀ location ∈ group.locations, group.finding.sourcePath < location.path ∨
            group.finding.sourcePath = location.path ∧
              group.finding.line ≤ location.startLine) := by
  rw [groups_run]
  intro group member
  have listed : group.locations.Pairwise (Location.InOrderUnlessNested (ingested calls)) := by
    rcases class_or_block member with ⟨print, _, rfl⟩ | ⟨clone, found, rfl⟩
    · exact (class_group_in_order print).imp Or.inl
    · exact block_group_in_order paths placed found
  obtain ⟨first, rest, locations⟩ := List.exists_cons_of_ne_nil (locations_ne_nil member)
  have isHead : group.locations.head? = some first := by rw [locations, List.head?_cons]
  have place := DuplicateGroup.finding_at_head isHead
    (start_line_pos member (List.mem_of_head? isHead))
  refine ⟨⟨first, isHead, place⟩, listed, fun flat => ?_⟩
  have inOrder : group.locations.Pairwise Location.InOrder := by
    apply listed.imp
    rintro left right (inOrder | ⟨_, unit, isUnit, _, nested⟩)
    · exact inOrder
    · exact absurd nested ((flat unit isUnit).not_nested_at _ _)
  refine ⟨inOrder, fun location isListed => ?_⟩
  rw [place.1, place.2]
  rw [locations] at inOrder isListed
  rcases List.mem_cons.mp isListed with same | later
  · rw [same]
    exact Or.inr ⟨rfl, Nat.le_refl _⟩
  · exact (List.pairwise_cons.mp inOrder).1 location later

end Detector

namespace DuplicationReport

section Short

variable {hash : RunHash} {thresholds : Thresholds} {digests : List UnitDigest}
  (short : ∀ digest ∈ digests, digest.significantLines < max thresholds.unitLines 1)

include short

theorem whole_members_of_short : wholeMembers thresholds digests = [] := by
  have noneLong : eligible thresholds digests = [] := by
    apply List.filter_eq_nil_iff.mpr
    rintro ⟨digest, index⟩ member
    have isShort := short digest (List.fst_mem_of_mem_zipIdx member)
    simp only [decide_eq_true_eq, Nat.not_le]
    exact isShort
  simp [wholeMembers, noneLong, firstOfRuns]

theorem shown_clones_of_short :
    shownClones hash thresholds digests = Clone.search hash digests thresholds := by
  simp [shownClones, whole_members_of_short short, restatesWhole]

theorem groups_of_short : (ofOrdered hash thresholds digests).groups =
    (DuplicateGroup.dropNested ((Clone.search hash digests thresholds).map
      (blockGroup digests))).mergeSort DuplicateGroup.le := by
  rw [groups_eq, blockGroups, shown_clones_of_short short, wholeGroups,
    whole_members_of_short short]
  rfl

end Short
end DuplicationReport

namespace Tree

def signAt (kind : String) (startByte endByte row : Nat) : Tree :=
  .node ⟨kind, false, false, startByte, endByte, row, row, []⟩ []

def nameAt (byte row : Nat) : Tree :=
  .node ⟨"identifier", true, false, byte, byte + 1, row, row, []⟩ []

def bracketsAt (kind : String) (startByte endByte row : Nat) (names : List Tree) : Tree :=
  .node ⟨kind, true, false, startByte, endByte, row, row, []⟩
    (signAt "(" startByte (startByte + 1) row ::
      (names ++ [signAt ")" (endByte - 1) endByte row]))

/-- A call that is a statement. -/
def callAt (startByte endByte row : Nat) (names : List Tree) : Tree :=
  .node ⟨"expression_statement", true, false, startByte, endByte, row, row, []⟩
    [.node ⟨"call_expression", true, false, startByte, endByte - 1, row, row, []⟩
      [nameAt startByte row, bracketsAt "arguments" (startByte + 1) (endByte - 1) row names],
    signAt ";" (endByte - 1) endByte row]

def routineAt (number startByte endByte startRow endRow : Nat) (statements : List Tree) : Tree :=
  .node ⟨"function_item", true, false, startByte, endByte, startRow, endRow,
      [(.name, number + 2), (.parameters, number + 3), (.body, number + 6)]⟩
    [signAt "fn" startByte (startByte + 2) startRow, nameAt (startByte + 3) startRow,
      bracketsAt "parameters" (startByte + 4) (startByte + 6) startRow [],
      .node ⟨"block", true, false, startByte + 7, endByte, startRow, endRow, []⟩
        (signAt "\x7b" (startByte + 7) (startByte + 8) startRow ::
          (statements ++ [signAt "\x7d" (endByte - 1) endByte endRow]))]

end Tree

namespace SourceUnit

def ofRoutines (source : String) (endByte endRow : Nat) (routines : List Tree) : SourceUnit :=
  ⟨"a.rs", ⟨"rust", ["rs"], ["function_item"]⟩, source,
    .node ⟨"source_file", true, false, 0, endByte, 0, endRow, []⟩ routines⟩

def digestBy (unit : SourceUnit) (routines : List RoutineDigest) : UnitDigest :=
  { UnitDigest.ofUnit unit with path := "a.rs", routines := routines }

def callHash : Fingerprint :=
  ⟨[89, 52, 215, 237, 62, 51, 232, 98, 152, 102, 208, 47, 31, 54, 176, 168, 24, 0, 10, 210, 26, 117,
    156, 74, 92, 233, 102, 228, 248, 5, 27, 145]⟩

def widerCallHash : Fingerprint :=
  ⟨[211, 183, 90, 208, 96, 20, 243, 134, 67, 227, 52, 160, 150, 207, 172, 26, 11, 119, 112, 22, 146,
    249, 243, 145, 134, 66, 253, 165, 92, 64, 53, 136]⟩

def routineHash : Fingerprint :=
  ⟨[204, 10, 200, 121, 187, 15, 246, 79, 46, 92, 94, 116, 71, 72, 81, 107, 83, 92, 194, 238, 198,
    214, 64, 167, 198, 211, 64, 41, 159, 117, 86, 32]⟩

/-- Two routines with the same two calls, each on one line. -/
def pairedUnit : SourceUnit :=
  ofRoutines "fn f() \x7b a(); a(a); \x7d\nfn g() \x7b a(a); a(); \x7d\n" 44 2
    [.routineAt 1 0 21 0 0 [.callAt 9 13 0 [], .callAt 14 19 0 [.nameAt 16 0]],
      .routineAt 25 22 43 1 1 [.callAt 31 36 1 [.nameAt 33 1], .callAt 37 41 1 []]]

def pairedRoutines : List RoutineDigest :=
  [⟨[⟨callHash, 4, 1, 1⟩, ⟨widerCallHash, 5, 1, 1⟩]⟩,
    ⟨[⟨widerCallHash, 5, 2, 2⟩, ⟨callHash, 4, 2, 2⟩]⟩]

theorem paired_unit_nodes : pairedUnit.routineNodes =
    [.routineAt 1 0 21 0 0 [.callAt 9 13 0 [], .callAt 14 19 0 [.nameAt 16 0]],
      .routineAt 25 22 43 1 1 [.callAt 31 36 1 [.nameAt 33 1], .callAt 37 41 1 []]] := by
  cbv

theorem paired_unit_routines : (UnitDigest.ofUnit pairedUnit).routines = pairedRoutines := by
  rw [UnitDigest.routines_of_unit, codeRoutines, paired_unit_nodes]
  decide +kernel

theorem paired_unit_placed : pairedUnit.Placed := by
  decide +kernel

theorem paired_unit_flat : pairedUnit.Flat := by
  rw [Flat, paired_unit_nodes]
  decide +kernel

/-- A routine inside another one, with a call like the one that follows it. -/
def nestedUnit : SourceUnit :=
  ofRoutines "fn f() \x7b\n    fn g() \x7b a(); \x7d\n    a();\n\x7d\n" 40 4
    [.routineAt 1 0 39 0 3 [.routineAt 9 13 28 1 1 [.callAt 22 26 1 []], .callAt 33 37 2 []]]

def nestedRoutines : List RoutineDigest :=
  [⟨[⟨routineHash, 10, 2, 2⟩, ⟨callHash, 4, 3, 3⟩]⟩, ⟨[⟨callHash, 4, 2, 2⟩]⟩]

theorem nested_unit_nodes : nestedUnit.routineNodes =
    [.routineAt 1 0 39 0 3 [.routineAt 9 13 28 1 1 [.callAt 22 26 1 []], .callAt 33 37 2 []],
      .routineAt 9 13 28 1 1 [.callAt 22 26 1 []]] := by
  cbv

theorem nested_unit_routines : (UnitDigest.ofUnit nestedUnit).routines = nestedRoutines := by
  rw [UnitDigest.routines_of_unit, codeRoutines, nested_unit_nodes]
  decide +kernel

end SourceUnit

namespace Detector

open Ingestion DuplicationReport SourceUnit

theorem paired_search (unit : SourceUnit) :
    Clone.search Clone.plainHash [unit.digestBy pairedRoutines] ⟨5, 1, 1⟩ =
      [⟨callHash, ⟨0, 0, 0, 1⟩, [⟨0, 1, 1, 2⟩]⟩,
        ⟨widerCallHash, ⟨0, 0, 1, 2⟩, [⟨0, 1, 0, 1⟩]⟩] := by
  rw [digestBy]
  -- The search reads the routines only, and the rest need not be evaluated.
  generalize UnitDigest.ofUnit unit = rest
  cbv

theorem nested_search (unit : SourceUnit) :
    Clone.search Clone.plainHash [unit.digestBy nestedRoutines] ⟨5, 1, 1⟩ =
      [⟨callHash, ⟨0, 0, 1, 2⟩, [⟨0, 1, 0, 1⟩]⟩] := by
  rw [digestBy]
  generalize UnitDigest.ofUnit unit = rest
  cbv

theorem paired_kept (unit : SourceUnit) (first second : Fingerprint) :
    DuplicateGroup.dropNested
        [blockGroup [unit.digestBy pairedRoutines] ⟨first, ⟨0, 0, 0, 1⟩, [⟨0, 1, 1, 2⟩]⟩,
          blockGroup [unit.digestBy pairedRoutines] ⟨second, ⟨0, 0, 1, 2⟩, [⟨0, 1, 0, 1⟩]⟩] =
      [blockGroup [unit.digestBy pairedRoutines] ⟨first, ⟨0, 0, 0, 1⟩, [⟨0, 1, 1, 2⟩]⟩] := by
  rw [digestBy]
  generalize UnitDigest.ofUnit unit = rest
  cbv

section Samples

variable {unit : SourceUnit} {routines : List RoutineDigest} (thresholds : Thresholds)
  (path : unit.path = "a.rs") (digested : (UnitDigest.ofUnit unit).routines = routines)
  (short : (UnitDigest.ofUnit unit).significantLines < max thresholds.unitLines 1)
  (coherent : Coherent Fingerprint.ofBytes [unit.digestBy routines])
  (plain : Coherent Clone.plainHash [unit.digestBy routines])

include path digested

theorem visited_sample : visitedDigests [unit] = [unit.digestBy routines] := by
  rw [visitedDigests, List.map_singleton, List.mergeSort_singleton, digestBy, ← path, ← digested]
  rfl

include short coherent plain

/-- The report on one short unit, by a search under a hash that is easily computed. -/
theorem report_sample :
    shownClones Fingerprint.ofBytes thresholds (visitedDigests [unit]) =
        (Clone.search Clone.plainHash [unit.digestBy routines] thresholds).map
          (Clone.rehashed Fingerprint.ofBytes [unit.digestBy routines]) ∧
      ((new thresholds).run [.single unit]).finish.groups =
        (DuplicateGroup.dropNested (((Clone.search Clone.plainHash [unit.digestBy routines]
          thresholds).map (Clone.rehashed Fingerprint.ofBytes [unit.digestBy routines])).map
            (blockGroup [unit.digestBy routines]))).mergeSort DuplicateGroup.le := by
  have visited := visited_sample path digested
  have ingestedUnit : ingested [.single unit] = [unit] := rfl
  have allShort : ∀ digest ∈ [unit.digestBy routines],
      digest.significantLines < max thresholds.unitLines 1 := by
    intro digest member
    rw [List.mem_singleton.mp member]
    exact short
  constructor
  · rw [visited, shown_clones_of_short allShort, Clone.search_rehashed coherent plain]
  · rw [groups_run, ingestedUnit, visited, groups_of_short allShort,
      Clone.search_rehashed coherent plain]

/-- The report where the second of two clones is nested in the first. -/
theorem report_sample_pair {kept dropped : Clone}
    (searched : Clone.search Clone.plainHash [unit.digestBy routines] thresholds = [kept, dropped])
    (nested : ∀ first second, DuplicateGroup.dropNested
        [blockGroup [unit.digestBy routines] { kept with fingerprint := first },
          blockGroup [unit.digestBy routines] { dropped with fingerprint := second }] =
      [blockGroup [unit.digestBy routines] { kept with fingerprint := first }]) :
    shownClones Fingerprint.ofBytes thresholds (visitedDigests [unit]) =
        [kept.rehashed Fingerprint.ofBytes [unit.digestBy routines],
          dropped.rehashed Fingerprint.ofBytes [unit.digestBy routines]] ∧
      ((new thresholds).run [.single unit]).finish.groups =
        [blockGroup [unit.digestBy routines]
          (kept.rehashed Fingerprint.ofBytes [unit.digestBy routines])] := by
  obtain ⟨shown, groups⟩ := report_sample thresholds path digested short coherent plain
  rw [searched] at shown groups
  simp only [List.map_cons, List.map_nil, Clone.rehashed] at groups
  rw [nested, List.mergeSort_singleton] at groups
  exact ⟨shown, groups⟩

end Samples

theorem paired_coherent : Coherent Fingerprint.ofBytes [pairedUnit.digestBy pairedRoutines] := by
  decide +kernel

/-- The two clones are on the same lines, and only the first of them is reported. -/
theorem paired_report :
    shownClones Fingerprint.ofBytes ⟨5, 1, 1⟩ (visitedDigests [pairedUnit]) =
        [Clone.rehashed Fingerprint.ofBytes [pairedUnit.digestBy pairedRoutines]
            ⟨callHash, ⟨0, 0, 0, 1⟩, [⟨0, 1, 1, 2⟩]⟩,
          Clone.rehashed Fingerprint.ofBytes [pairedUnit.digestBy pairedRoutines]
            ⟨widerCallHash, ⟨0, 0, 1, 2⟩, [⟨0, 1, 0, 1⟩]⟩] ∧
      ((new ⟨5, 1, 1⟩).run [.single pairedUnit]).finish.groups =
        [blockGroup [pairedUnit.digestBy pairedRoutines]
          (Clone.rehashed Fingerprint.ofBytes [pairedUnit.digestBy pairedRoutines]
            ⟨callHash, ⟨0, 0, 0, 1⟩, [⟨0, 1, 1, 2⟩]⟩)] := by
  have plain : Coherent Clone.plainHash [pairedUnit.digestBy pairedRoutines] := by decide +kernel
  exact report_sample_pair ⟨5, 1, 1⟩ rfl paired_unit_routines (by decide +kernel) paired_coherent
    plain (paired_search pairedUnit) (paired_kept pairedUnit)

theorem locations_in_source_order_paired :
    ∃ group ∈ ((new ⟨5, 1, 1⟩).run [.single pairedUnit]).finish.groups,
      group.locations.Pairwise Location.InOrder ∧
        ∀ location ∈ group.locations, group.finding.sourcePath < location.path ∨
          group.finding.sourcePath = location.path ∧ group.finding.line ≤ location.startLine := by
  have placed : ∀ unit ∈ ingested [.single pairedUnit], unit.Placed := by
    simpa [ingested, units] using paired_unit_placed
  have flat : ∀ unit ∈ ingested [.single pairedUnit], unit.Flat := by
    simpa [ingested, units] using paired_unit_flat
  have paths : ((ingested [.single pairedUnit]).map fun unit => unit.path).Nodup := by
    simp [ingested, units]
  have reported : ((new ⟨5, 1, 1⟩).run [.single pairedUnit]).finish.groups ≠ [] := by
    rw [paired_report.2]
    exact List.cons_ne_nil _ _
  obtain ⟨group, member⟩ := List.exists_mem_of_ne_nil _ reported
  have listed := locations_in_source_order ⟨5, 1, 1⟩ [.single pairedUnit] paths placed group member
  exact ⟨group, member, listed.2.2 flat⟩

theorem nested_locations_out_of_order :
    nestedUnit.Placed ∧ ∃ group,
      ((new ⟨5, 1, 1⟩).run [.single nestedUnit]).finish.groups = [group] ∧
        group.locations = [⟨"a.rs", 3, 3⟩, ⟨"a.rs", 2, 2⟩] ∧ group.finding.line = 3 ∧
        ¬ group.locations.Pairwise Location.InOrder := by
  have coherent : Coherent Fingerprint.ofBytes [nestedUnit.digestBy nestedRoutines] := by
    decide +kernel
  have plain : Coherent Clone.plainHash [nestedUnit.digestBy nestedRoutines] := by
    decide +kernel
  have groups := (report_sample ⟨5, 1, 1⟩ rfl nested_unit_routines (by decide +kernel) coherent
    plain).2
  rw [nested_search, List.map_singleton, List.map_singleton, DuplicateGroup.drop_nested_singleton,
    List.mergeSort_singleton] at groups
  have locations : (blockGroup [nestedUnit.digestBy nestedRoutines]
      (Clone.rehashed Fingerprint.ofBytes [nestedUnit.digestBy nestedRoutines]
        ⟨callHash, ⟨0, 0, 1, 2⟩, [⟨0, 1, 0, 1⟩]⟩)).locations =
          [⟨"a.rs", 3, 3⟩, ⟨"a.rs", 2, 2⟩] := rfl
  refine ⟨by decide +kernel, _, groups, locations, rfl, ?_⟩
  rw [locations]
  intro inOrder
  rcases (List.pairwise_cons.mp inOrder).1 ⟨"a.rs", 2, 2⟩ List.mem_cons_self with
    earlier | ⟨_, follows⟩
  · exact lt_irrefl _ earlier
  · exact absurd follows (by decide)

end Detector
end CodeAudit
