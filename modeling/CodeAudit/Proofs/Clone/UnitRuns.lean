import CodeAudit.Clone.Detector
import CodeAudit.Proofs.Clone.Window
import CodeAudit.Proofs.Source.TokenLeaves

/-!
The statements behind a digest. A digest keeps the statements that have tokens and the routines that
have such statements. A span of the digest stands for a run of them, from which it has its location
and its number of tokens.
-/

namespace CodeAudit

theorem filter_map_eq_map_filter {Item Other : Type} {accepts : Item → Bool} {make : Item → Other}
    {choose : Item → Option Other}
    (chosen : ∀ item, choose item = if accepts item then some (make item) else none)
    (items : List Item) : items.filterMap choose = (items.filter accepts).map make := by
  induction items with
  | nil => rfl
  | cons head rest ih =>
      cases accepted : accepts head with
      | true => simp [chosen head, accepted, ih]
      | false => simp [chosen head, accepted, ih]

namespace SourceUnit

def codeStatements (unit : SourceUnit) (node : Tree) : List Tree :=
  (unit.statementsAt node).filter fun statement => !(unit.tokens statement).isEmpty

def codeRoutines (unit : SourceUnit) : List Tree :=
  unit.routineNodes.filter fun node => !(unit.codeStatements node).isEmpty

def digestOf (unit : SourceUnit) (statement : Tree) : StatementDigest :=
  ⟨Fingerprint.ofBytes (StatementDigest.encode (unit.tokens statement)),
    (unit.tokens statement).length, statement.root.startRow + 1, statement.root.endRow + 1⟩

def runOf (unit : SourceUnit) (span : Span) : List Tree :=
  match unit.codeRoutines[span.routine]? with
  | none => []
  | some node => ((unit.codeStatements node).drop span.start).take span.length

section Statements

variable {unit : SourceUnit} {node statement : Tree}

theorem mem_code_statements : statement ∈ unit.codeStatements node ↔
    statement ∈ unit.statementsAt node ∧ Tree.tokenLeaves [statement] ≠ [] := by
  simp [codeStatements, tokens, List.mem_filter]

theorem code_statements_ordered (placed : unit.Placed) (node : Tree) :
    (unit.codeStatements node).Pairwise Tree.EndsBefore :=
  (statements_at_ordered placed node).filter _

theorem code_statement_mem_tree (member : statement ∈ unit.codeStatements node) :
    statement ∈ unit.tree.subtrees :=
  statement_mem_tree (mem_code_statements.mp member).1

theorem code_statement_covers (placed : unit.Placed)
    (member : statement ∈ unit.codeStatements node) :
    statement.root.startByte < statement.root.endByte := by
  obtain ⟨isStatement, hasLeaves⟩ := mem_code_statements.mp member
  obtain ⟨leaf, isLeaf⟩ := List.exists_mem_of_ne_nil _ hasLeaves
  exact Tree.covers_of_leaf (placed.tree.of_mem (statement_mem_tree isStatement)) isLeaf

end Statements

/-- Where the run of a span stands: the node of its routine, its first statement and its last. -/
structure RunAt (unit : SourceUnit) (span : Span) (node first last : Tree) : Prop where
  routine : unit.codeRoutines[span.routine]? = some node
  proper : span.start < span.stop
  atStart : (unit.codeStatements node)[span.start]? = some first
  atStop : (unit.codeStatements node)[span.stop - 1]? = some last

section Runs

variable {unit : SourceUnit} {span : Span} {node first last : Tree}

theorem RunAt.node_mem (run : unit.RunAt span node first last) : node ∈ unit.routineNodes :=
  (List.mem_filter.mp (List.mem_of_getElem? run.routine)).1

theorem RunAt.first_mem (run : unit.RunAt span node first last) :
    first ∈ unit.codeStatements node :=
  List.mem_of_getElem? run.atStart

theorem RunAt.last_mem (run : unit.RunAt span node first last) : last ∈ unit.codeStatements node :=
  List.mem_of_getElem? run.atStop

theorem RunAt.run_of_eq (run : unit.RunAt span node first last) :
    unit.runOf span = ((unit.codeStatements node).drop span.start).take span.length := by
  rw [runOf, run.routine]

theorem RunAt.mem_run_of (run : unit.RunAt span node first last) {statement : Tree} :
    statement ∈ unit.runOf span ↔ ∃ index, span.start ≤ index ∧ index < span.stop ∧
      (unit.codeStatements node)[index]? = some statement := by
  rw [run.run_of_eq, List.mem_iff_getElem?]
  simp only [List.getElem?_take, List.getElem?_drop, Span.length]
  constructor
  · rintro ⟨offset, found⟩
    split at found
    · exact ⟨span.start + offset, by omega, by omega, found⟩
    · cases found
  · rintro ⟨index, lower, upper, found⟩
    refine ⟨index - span.start, ?_⟩
    rw [if_pos (by omega), Nat.add_sub_cancel' lower, found]

theorem RunAt.mem_code (run : unit.RunAt span node first last) {statement : Tree}
    (member : statement ∈ unit.runOf span) : statement ∈ unit.codeStatements node := by
  obtain ⟨index, _, _, atIndex⟩ := run.mem_run_of.mp member
  exact List.mem_of_getElem? atIndex

theorem RunAt.head_run_of (run : unit.RunAt span node first last) :
    (unit.runOf span).head? = some first := by
  have nonempty : span.length ≠ 0 := Nat.sub_ne_zero_of_lt run.proper
  rw [run.run_of_eq, List.head?_take, if_neg nonempty, List.head?_drop, run.atStart]

theorem RunAt.get_last_run_of (run : unit.RunAt span node first last) :
    (unit.runOf span).getLast? = some last := by
  have proper := run.proper
  have bound := (List.getElem?_eq_some_iff.mp run.atStop).1
  have size : (unit.runOf span).length = span.length := by
    rw [run.run_of_eq, List.length_take, List.length_drop]
    simp only [Span.length]
    omega
  have inside : span.length - 1 < span.length := by
    simp only [Span.length]
    omega
  have lastIndex : span.start + (span.length - 1) = span.stop - 1 := by
    simp only [Span.length]
    omega
  rw [List.getLast?_eq_getElem?, size, run.run_of_eq, List.getElem?_take, if_pos inside,
    List.getElem?_drop, lastIndex, run.atStop]

end Runs

section Ordered

variable {unit : SourceUnit} {span : Span} {node first last : Tree} (placed : unit.Placed)
  (run : unit.RunAt span node first last)

include placed run

theorem RunAt.run_of_ordered : (unit.runOf span).Pairwise Tree.EndsBefore := by
  rw [run.run_of_eq]
  exact (code_statements_ordered placed node).sublist
    ((List.take_sublist _ _).trans (List.drop_sublist _ _))

/-- A statement of the routine that is not in the run ends before it or begins after it. -/
theorem RunAt.member_or_apart {other : Tree} (isStatement : other ∈ unit.codeStatements node) :
    other ∈ unit.runOf span ∨ other.EndsBefore first ∨ last.EndsBefore other := by
  have ordered := code_statements_ordered placed node
  have proper := run.proper
  obtain ⟨index, atIndex⟩ := List.mem_iff_getElem?.mp isStatement
  by_cases before : index < span.start
  · exact Or.inr (Or.inl (related_of_get_elem? ordered before atIndex run.atStart))
  · by_cases after : span.stop ≤ index
    · have later : span.stop - 1 < index := by omega
      exact Or.inr (Or.inr (related_of_get_elem? ordered later run.atStop atIndex))
    · exact Or.inl (run.mem_run_of.mpr ⟨index, by omega, by omega, atIndex⟩)

theorem RunAt.rows_of_mem {member : Tree} (inRun : member ∈ unit.runOf span) :
    first.root.startRow ≤ member.root.startRow ∧ member.root.endRow ≤ last.root.endRow := by
  have ordered := code_statements_ordered placed node
  obtain ⟨index, lower, upper, atIndex⟩ := run.mem_run_of.mp inRun
  have firstPart := code_statement_mem_tree run.first_mem
  have lastPart := code_statement_mem_tree run.last_mem
  have memberPart := code_statement_mem_tree (run.mem_code inRun)
  constructor
  · rcases Nat.eq_or_lt_of_le lower with same | later
    · rw [← same, run.atStart, Option.some.injEq] at atIndex
      exact Nat.le_of_eq (congrArg (fun tree => tree.root.startRow) atIndex)
    · have before := related_of_get_elem? ordered later run.atStart atIndex
      exact Nat.le_trans (start_row_le_end_row placed firstPart)
        (rows_of_ends_before placed firstPart memberPart before)
  · rcases Nat.eq_or_lt_of_le (Nat.le_sub_one_of_lt upper) with same | earlier
    · rw [same, run.atStop, Option.some.injEq] at atIndex
      exact Nat.le_of_eq (congrArg (fun tree => tree.root.endRow) atIndex.symm)
    · have before := related_of_get_elem? ordered earlier atIndex run.atStop
      exact Nat.le_trans (rows_of_ends_before placed memberPart lastPart before)
        (start_row_le_end_row placed lastPart)

end Ordered
end SourceUnit

namespace UnitDigest

/-- A unit's digest is made of its statements with tokens, routine by routine. -/
theorem routines_of_unit (unit : SourceUnit) : (ofUnit unit).routines =
    unit.codeRoutines.map fun node => ⟨(unit.codeStatements node).map unit.digestOf⟩ := by
  simp only [ofUnit, SourceUnit.routines, List.filterMap_map]
  apply filter_map_eq_map_filter
  intro node
  have statements : (unit.statementsAt node).filterMap (StatementDigest.ofStatement? unit) =
      (unit.codeStatements node).map unit.digestOf := by
    apply filter_map_eq_map_filter
    intro statement
    rw [StatementDigest.ofStatement?]
    cases (unit.tokens statement).isEmpty with
    | true => rfl
    | false => rfl
  rw [Function.comp_apply, RoutineDigest.ofRoutine?]
  rw [SourceUnit.statementsAt] at statements
  rw [statements, List.isEmpty_map]
  cases (unit.codeStatements node).isEmpty with
  | true => rfl
  | false => rfl

end UnitDigest

namespace DuplicationReport

section Runs

variable {digests : List UnitDigest} {unit : SourceUnit} {span : Span}
  (found : digests[span.unit]? = some (UnitDigest.ofUnit unit))

include found

theorem span_statements_eq :
    spanStatements digests span = (unit.runOf span).map unit.digestOf := by
  rw [spanStatements, routineStatements, found]
  simp only [UnitDigest.routines_of_unit, List.getElem?_map, SourceUnit.runOf]
  cases unit.codeRoutines[span.routine]? with
  | none => simp
  | some node => simp [List.map_take, List.map_drop]

theorem span_tokens_eq :
    spanTokens digests span = (Tree.tokenLeaves (unit.runOf span)).length := by
  rw [spanTokens, span_statements_eq found, List.foldr_map]
  induction unit.runOf span with
  | nil => simp [Tree.tokenLeaves]
  | cons head rest ih =>
      rw [List.foldr_cons, ih, Tree.token_leaves_cons, List.length_append]
      simp [SourceUnit.digestOf, SourceUnit.tokens]

theorem exists_run_at (window : IsWindow digests span) : ∃ node first last,
    unit.RunAt span node first last ∧ spanLocation digests span =
      ⟨unit.path, first.root.startRow + 1, last.root.endRow + 1⟩ := by
  obtain ⟨proper, inside⟩ := window
  rw [routineStatements, found] at inside
  simp only [UnitDigest.routines_of_unit, List.getElem?_map] at inside
  cases routine : unit.codeRoutines[span.routine]? with
  | none =>
      simp only [routine, Option.map_none, List.length_nil] at inside
      omega
  | some node =>
      simp only [routine, Option.map_some, List.length_map] at inside
      have startBound : span.start < (unit.codeStatements node).length := by omega
      have stopBound : span.stop - 1 < (unit.codeStatements node).length := by omega
      have run : unit.RunAt span node _ _ := ⟨routine, proper,
        List.getElem?_eq_getElem startBound, List.getElem?_eq_getElem stopBound⟩
      refine ⟨node, _, _, run, ?_⟩
      rw [spanLocation, spanLines, span_statements_eq found, found]
      simp [run.head_run_of, run.get_last_run_of, SourceUnit.digestOf, UnitDigest.ofUnit]

end Runs
end DuplicationReport
end CodeAudit
