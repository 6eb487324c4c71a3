import CodeAudit.Clone.Search
import CodeAudit.Proofs.OrderedList

/-!
Windows, the spans that lie inside a routine, with their content: the hashes of their statements.
The windows are listed in the order of unit, routine, start and stop. A hash of runs is coherent
when it tells different contents apart and equal hashes of statements come with equal sizes.
-/

namespace CodeAudit

namespace Span

def Precedes (left right : Span) : Prop :=
  left.unit < right.unit ∨ left.unit = right.unit ∧
    (left.routine < right.routine ∨ left.routine = right.routine ∧ left.start < right.start)

/-- Order by unit, routine, start and stop, in which spans are visited. -/
def Before (left right : Span) : Prop :=
  left.Precedes right ∨ left.unit = right.unit ∧ left.routine = right.routine ∧
    left.start = right.start ∧ left.stop < right.stop

def Within (inner outer : Span) : Prop :=
  inner.unit = outer.unit ∧ inner.routine = outer.routine ∧
    outer.start ≤ inner.start ∧ inner.stop ≤ outer.stop

/-- The run of `count` statements that begins `offset` statements into the span. -/
def part (span : Span) (offset count : Nat) : Span :=
  ⟨span.unit, span.routine, span.start + offset, span.start + offset + count⟩

instance (left right : Span) : Decidable (left.Precedes right) :=
  inferInstanceAs (Decidable (_ ∨ _))

instance (left right : Span) : Decidable (left.Before right) :=
  inferInstanceAs (Decidable (_ ∨ _))

instance (inner outer : Span) : Decidable (inner.Within outer) :=
  inferInstanceAs (Decidable (_ ∧ _))

theorem same_routine_iff (left right : Span) :
    left.sameRoutine right = true ↔ left.unit = right.unit ∧ left.routine = right.routine := by
  simp [sameRoutine]

theorem overlaps_iff (left right : Span) :
    left.overlaps right = true ↔ left.unit = right.unit ∧ left.routine = right.routine ∧
      left.start < right.stop ∧ right.start < left.stop := by
  simp [overlaps, sameRoutine, and_assoc]

theorem apart_iff (left right : Span) :
    left.overlaps right = false ↔ (left.unit = right.unit → left.routine = right.routine →
      left.start < right.stop → left.stop ≤ right.start) := by
  rw [← Bool.not_eq_true, overlaps_iff]
  omega

theorem le_iff (left right : Span) :
    left.le right = true ↔ left = right ∨ left.Before right := by
  obtain ⟨unit, routine, start, stop⟩ := left
  obtain ⟨otherUnit, otherRoutine, otherStart, otherStop⟩ := right
  simp only [le, compare, Ordering.isLE_then_iff_and, Nat.isLE_compare, Nat.compare_eq_lt,
    Before, Precedes, mk.injEq]
  omega

theorem before_trans {left middle right : Span} (earlier : left.Before middle)
    (later : middle.Before right) : left.Before right := by
  simp only [Before, Precedes] at *
  omega

theorem before_irrefl (span : Span) : ¬ span.Before span := by
  simp only [Before, Precedes]
  omega

theorem precedes_irrefl (span : Span) : ¬ span.Precedes span := by
  simp only [Precedes]
  omega

theorem precedes_asymm {left right : Span} (precedes : left.Precedes right) :
    ¬ right.Precedes left := by
  simp only [Precedes] at *
  omega

theorem not_precedes_of_before {left right : Span} (before : left.Before right) :
    ¬ right.Precedes left := by
  simp only [Before, Precedes] at *
  omega

theorem before_trichotomy (left right : Span) :
    left = right ∨ left.Before right ∨ right.Before left := by
  obtain ⟨unit, routine, start, stop⟩ := left
  obtain ⟨otherUnit, otherRoutine, otherStart, otherStop⟩ := right
  simp only [Before, Precedes, mk.injEq]
  omega

end Span

def IsWindow (digests : List UnitDigest) (span : Span) : Prop :=
  span.start < span.stop ∧
    span.stop ≤ (routineStatements digests span.unit span.routine).length

instance (digests : List UnitDigest) (span : Span) : Decidable (IsWindow digests span) :=
  inferInstanceAs (Decidable (_ ∧ _))

def spanHashes (digests : List UnitDigest) (span : Span) : List Fingerprint :=
  (spanStatements digests span).map fun statement => statement.hash

def hashAt? (digests : List UnitDigest) (unit routine position : Nat) : Option Fingerprint :=
  (routineStatements digests unit routine)[position]?.map fun statement => statement.hash

theorem mem_routine_spans {unit routine count : Nat} {span : Span} :
    span ∈ routineSpans unit routine count ↔
      span.unit = unit ∧ span.routine = routine ∧ span.start < span.stop ∧ span.stop ≤ count := by
  obtain ⟨spanUnit, spanRoutine, start, stop⟩ := span
  simp only [routineSpans, List.mem_flatMap, List.mem_map, List.mem_range, Span.mk.injEq]
  constructor
  · rintro ⟨first, _, extra, _, rfl, rfl, rfl, rfl⟩
    omega
  · rintro ⟨rfl, rfl, nonempty, inside⟩
    exact ⟨start, by omega, stop - start - 1, by omega, rfl, rfl, rfl, by omega⟩

theorem mem_all_spans {digests : List UnitDigest} {span : Span} :
    span ∈ allSpans digests ↔ IsWindow digests span := by
  simp only [allSpans, List.mem_flatten, List.mem_map, Prod.exists, List.mk_mem_zipIdx_iff_getElem?]
  constructor
  · rintro ⟨_, ⟨digest, unit, inUnit, rfl⟩, member⟩
    simp only [List.mem_flatten, List.mem_map, Prod.exists,
      List.mk_mem_zipIdx_iff_getElem?] at member
    obtain ⟨_, ⟨body, routine, inRoutine, rfl⟩, member⟩ := member
    obtain ⟨rfl, rfl, nonempty, inside⟩ := mem_routine_spans.mp member
    refine ⟨nonempty, ?_⟩
    simpa only [routineStatements, inUnit, inRoutine] using inside
  · rintro ⟨nonempty, inside⟩
    cases inUnit : digests[span.unit]? with
    | none =>
        simp only [routineStatements, inUnit, List.length_nil] at inside
        omega
    | some digest =>
        cases inRoutine : digest.routines[span.routine]? with
        | none =>
            simp only [routineStatements, inUnit, inRoutine, List.length_nil] at inside
            omega
        | some body =>
            simp only [routineStatements, inUnit, inRoutine] at inside
            refine ⟨_, ⟨digest, span.unit, inUnit, rfl⟩, ?_⟩
            simp only [List.mem_flatten, List.mem_map, Prod.exists,
              List.mk_mem_zipIdx_iff_getElem?]
            exact ⟨_, ⟨body, span.routine, inRoutine, rfl⟩,
              mem_routine_spans.mpr ⟨rfl, rfl, nonempty, inside⟩⟩

theorem routine_spans_ordered (unit routine count : Nat) :
    (routineSpans unit routine count).Pairwise Span.Before := by
  refine List.pairwise_flatMap.mpr ⟨fun start _ => ?_, ?_⟩
  · refine List.pairwise_map.mpr (List.pairwise_lt_range.imp fun shorter => ?_)
    exact Or.inr ⟨rfl, rfl, rfl, by simpa using shorter⟩
  · refine List.pairwise_lt_range.imp fun {first second} earlier left inLeft right inRight => ?_
    obtain ⟨_, _, rfl⟩ := List.mem_map.mp inLeft
    obtain ⟨_, _, rfl⟩ := List.mem_map.mp inRight
    exact Or.inl (Or.inr ⟨rfl, Or.inr ⟨rfl, earlier⟩⟩)

theorem unit_spans_ordered (unit : Nat) (routines : List RoutineDigest) :
    ((routines.zipIdx.map fun (body, routine) =>
      routineSpans unit routine body.statements.length).flatten).Pairwise Span.Before := by
  refine List.pairwise_flatten.mpr ⟨?_, ?_⟩
  · intro spans member
    obtain ⟨entry, _, rfl⟩ := List.mem_map.mp member
    exact routine_spans_ordered unit entry.2 entry.1.statements.length
  · refine List.pairwise_map.mpr ((zip_idx_positions_increase routines).imp ?_)
    intro first second earlier left inLeft right inRight
    have leftPlace := mem_routine_spans.mp inLeft
    have rightPlace := mem_routine_spans.mp inRight
    refine Or.inl (Or.inr ⟨leftPlace.1.trans rightPlace.1.symm, Or.inl ?_⟩)
    rw [leftPlace.2.1, rightPlace.2.1]
    exact earlier

theorem all_spans_ordered (digests : List UnitDigest) :
    (allSpans digests).Pairwise Span.Before := by
  refine List.pairwise_flatten.mpr ⟨?_, ?_⟩
  · intro spans member
    obtain ⟨entry, _, rfl⟩ := List.mem_map.mp member
    exact unit_spans_ordered entry.2 entry.1.routines
  · refine List.pairwise_map.mpr ((zip_idx_positions_increase digests).imp ?_)
    intro first second earlier left inLeft right inRight
    have unitOf : ∀ (entry : UnitDigest × Nat) (span : Span),
        span ∈ (entry.1.routines.zipIdx.map fun (body, routine) =>
          routineSpans entry.2 routine body.statements.length).flatten → span.unit = entry.2 := by
      intro entry span member
      obtain ⟨spans, inSpans, inside⟩ := List.mem_flatten.mp member
      obtain ⟨_, _, rfl⟩ := List.mem_map.mp inSpans
      exact (mem_routine_spans.mp inside).1
    refine Or.inl (Or.inl ?_)
    rw [unitOf first left inLeft, unitOf second right inRight]
    exact earlier

section Content

variable {digests : List UnitDigest}

theorem exists_digest_of_window {span : Span} (window : IsWindow digests span) :
    ∃ digest, digests[span.unit]? = some digest := by
  obtain ⟨proper, inside⟩ := window
  cases found : digests[span.unit]? with
  | none =>
      simp only [routineStatements, found, List.length_nil] at inside
      omega
  | some digest => exact ⟨digest, rfl⟩

theorem span_statements_length {span : Span} (window : IsWindow digests span) :
    (spanStatements digests span).length = span.length := by
  have inside := window.2
  simp only [spanStatements, List.length_take, List.length_drop, Span.length]
  omega

theorem span_hashes_length {span : Span} (window : IsWindow digests span) :
    (spanHashes digests span).length = span.length := by
  rw [spanHashes, List.length_map, span_statements_length window]

theorem span_hashes_get_elem? (span : Span) (index : Nat) :
    (spanHashes digests span)[index]? =
      if index < span.length then hashAt? digests span.unit span.routine (span.start + index)
      else none := by
  simp only [spanHashes, spanStatements, hashAt?, List.getElem?_map, List.getElem?_take]
  split
  · rw [List.getElem?_drop]
  · rfl

theorem same_content_iff {left right : Span} (equalLength : left.length = right.length) :
    spanHashes digests left = spanHashes digests right ↔ ∀ index < left.length,
      hashAt? digests left.unit left.routine (left.start + index) =
        hashAt? digests right.unit right.routine (right.start + index) := by
  constructor
  · intro same index bound
    have entries := congrArg (fun hashes => hashes[index]?) same
    simpa only [span_hashes_get_elem?, if_pos bound, if_pos (equalLength ▸ bound)] using entries
  · intro pointwise
    apply List.ext_getElem?
    intro index
    rw [span_hashes_get_elem?, span_hashes_get_elem?, ← equalLength]
    split
    · rename_i bound
      exact pointwise index bound
    · rfl

theorem length_eq_of_same_content {left right : Span} (leftWindow : IsWindow digests left)
    (rightWindow : IsWindow digests right)
    (same : spanHashes digests left = spanHashes digests right) : left.length = right.length := by
  rw [← span_hashes_length leftWindow, ← span_hashes_length rightWindow, same]

theorem span_statements_part {span : Span} {offset count : Nat}
    (bound : offset + count ≤ span.length) :
    spanStatements digests (span.part offset count) =
      ((spanStatements digests span).drop offset).take count := by
  have size : (span.part offset count).length = count := by
    simp only [Span.part, Span.length]
    omega
  rw [spanStatements, size, spanStatements, List.drop_take, List.take_take, List.drop_drop,
    Nat.min_eq_left (by omega)]
  rfl

theorem window_part {span : Span} {offset count : Nat} (window : IsWindow digests span)
    (nonempty : 0 < count) (bound : offset + count ≤ span.length) :
    IsWindow digests (span.part offset count) := by
  obtain ⟨proper, inside⟩ := window
  simp only [IsWindow, Span.part, Span.length] at *
  omega

theorem same_content_part {left right : Span} {offset count : Nat}
    (equalLength : left.length = right.length) (bound : offset + count ≤ left.length)
    (same : spanHashes digests left = spanHashes digests right) :
    spanHashes digests (left.part offset count) = spanHashes digests (right.part offset count) := by
  simp only [spanHashes] at *
  rw [span_statements_part bound, span_statements_part (equalLength ▸ bound)]
  simp only [List.map_take, List.map_drop, same]

theorem eq_part_of_within {inner outer : Span} (inside : inner.Within outer)
    (proper : inner.start ≤ inner.stop) :
    inner = outer.part (inner.start - outer.start) inner.length ∧
      inner.start - outer.start + inner.length ≤ outer.length := by
  obtain ⟨unit, routine, start, stop⟩ := inner
  obtain ⟨otherUnit, otherRoutine, otherStart, otherStop⟩ := outer
  simp only [Span.Within, Span.part, Span.length, Span.mk.injEq] at *
  omega

theorem span_tokens_eq_foldr (span : Span) : spanTokens digests span =
    ((spanStatements digests span).map fun statement => statement.tokens).foldr Nat.add 0 := by
  rw [spanTokens, List.foldr_map]
  rfl

theorem foldr_add_le_of_sublist {part whole : List Nat} (inside : part.Sublist whole) :
    part.foldr Nat.add 0 ≤ whole.foldr Nat.add 0 := by
  induction inside with
  | slnil => exact Nat.le_refl _
  | cons head _ ih => exact Nat.le_trans ih (Nat.le_add_left _ head)
  | cons_cons head _ ih => exact Nat.add_le_add_left ih head

theorem span_tokens_le_of_within {inner outer : Span} (inside : inner.Within outer)
    (proper : inner.start ≤ inner.stop) : spanTokens digests inner ≤ spanTokens digests outer := by
  obtain ⟨isPart, bound⟩ := eq_part_of_within inside proper
  rw [isPart, span_tokens_eq_foldr, span_tokens_eq_foldr, span_statements_part bound]
  have part := (List.take_sublist inner.length
    ((spanStatements digests outer).drop (inner.start - outer.start))).trans
      (List.drop_sublist _ _)
  exact foldr_add_le_of_sublist (part.map fun statement => statement.tokens)

theorem large_of_within {thresholds : Thresholds} {inner outer : Span}
    (inside : inner.Within outer) (proper : inner.start ≤ inner.stop)
    (large : isLargeEnough digests thresholds inner = true) :
    isLargeEnough digests thresholds outer = true := by
  have tokens : spanTokens digests inner ≤ spanTokens digests outer :=
    span_tokens_le_of_within inside proper
  have longer : inner.length ≤ outer.length := by
    simp only [Span.length, Span.Within] at *
    omega
  simp only [isLargeEnough, Bool.and_eq_true, decide_eq_true_eq] at *
  exact ⟨Nat.le_trans large.1 longer, Nat.le_trans large.2 tokens⟩

end Content

def allStatements (digests : List UnitDigest) : List StatementDigest :=
  digests.flatMap fun digest => digest.routines.flatMap fun body => body.statements

theorem mem_all_statements {digests : List UnitDigest} {span : Span} {statement : StatementDigest}
    (member : statement ∈ spanStatements digests span) : statement ∈ allStatements digests := by
  have inRoutine := List.mem_of_mem_drop (List.mem_of_mem_take member)
  simp only [routineStatements] at inRoutine
  split at inRoutine
  · cases inRoutine
  · split at inRoutine
    · cases inRoutine
    · rename_i digest unit _ body routine
      exact List.mem_flatMap.mpr ⟨digest, List.mem_of_getElem? unit,
        List.mem_flatMap.mpr ⟨body, List.mem_of_getElem? routine, inRoutine⟩⟩

/-- No two windows with different content have the same fingerprint, and statements with the same
hash have the same number of tokens. -/
structure Coherent (hash : RunHash) (digests : List UnitDigest) : Prop where
  separates : ∀ left right, IsWindow digests left → IsWindow digests right →
    spanFingerprint hash digests left = spanFingerprint hash digests right →
      spanHashes digests left = spanHashes digests right
  weighs : ∀ left ∈ allStatements digests, ∀ right ∈ allStatements digests,
    left.hash = right.hash → left.tokens = right.tokens

def contentFingerprint (hash : RunHash) (content : List Fingerprint) : Fingerprint :=
  hash (content.flatMap fun print => print.bytes)

theorem span_fingerprint_eq (hash : RunHash) (digests : List UnitDigest) (span : Span) :
    spanFingerprint hash digests span = contentFingerprint hash (spanHashes digests span) := by
  rw [spanFingerprint, contentFingerprint, spanHashes, List.flatMap_map]

theorem fingerprint_eq_of_same_content {hash : RunHash} {digests : List UnitDigest}
    {left right : Span} (same : spanHashes digests left = spanHashes digests right) :
    spanFingerprint hash digests left = spanFingerprint hash digests right := by
  rw [span_fingerprint_eq, span_fingerprint_eq, same]

def allContents (digests : List UnitDigest) : List (List Fingerprint) :=
  ((allSpans digests).map (spanHashes digests)).eraseDups

theorem span_hashes_mem_all_contents {digests : List UnitDigest} {span : Span}
    (window : IsWindow digests span) : spanHashes digests span ∈ allContents digests := by
  rw [allContents, List.mem_eraseDups]
  exact List.mem_map.mpr ⟨span, mem_all_spans.mpr window, rfl⟩

/-- Coherence is decided on the contents that occur, each taken once. -/
theorem coherent_iff_pairwise {hash : RunHash} {digests : List UnitDigest} :
    ((allContents digests).Pairwise (fun left right =>
        left = right ∨ contentFingerprint hash left ≠ contentFingerprint hash right) ∧
      (allStatements digests).Pairwise (fun left right =>
        left.hash = right.hash → left.tokens = right.tokens)) ↔ Coherent hash digests := by
  constructor
  · rintro ⟨separates, weighs⟩
    refine ⟨fun left right leftWindow rightWindow samePrint => ?_,
      fun left inLeft right inRight sameHash => ?_⟩
    · rw [span_fingerprint_eq, span_fingerprint_eq] at samePrint
      rcases related_of_mem_pairwise separates (span_hashes_mem_all_contents leftWindow)
        (span_hashes_mem_all_contents rightWindow) with equal | forward | backward
      · exact equal
      · exact forward.resolve_right (not_not_intro samePrint)
      · exact (backward.resolve_right (not_not_intro samePrint.symm)).symm
    · rcases related_of_mem_pairwise weighs inLeft inRight with equal | forward | backward
      · rw [equal]
      · exact forward sameHash
      · exact (backward sameHash.symm).symm
  · intro coherent
    refine ⟨List.pairwise_of_forall_mem_list fun left inLeft right inRight => ?_,
      List.pairwise_of_forall_mem_list coherent.weighs⟩
    rw [allContents, List.mem_eraseDups, List.mem_map] at inLeft inRight
    obtain ⟨leftSpan, leftMember, rfl⟩ := inLeft
    obtain ⟨rightSpan, rightMember, rfl⟩ := inRight
    rw [← span_fingerprint_eq, ← span_fingerprint_eq]
    by_cases samePrint : spanFingerprint hash digests leftSpan =
        spanFingerprint hash digests rightSpan
    · exact Or.inl (coherent.separates leftSpan rightSpan (mem_all_spans.mp leftMember)
        (mem_all_spans.mp rightMember) samePrint)
    · exact Or.inr samePrint

instance (hash : RunHash) (digests : List UnitDigest) : Decidable (Coherent hash digests) :=
  decidable_of_iff _ coherent_iff_pairwise

section Sizes

variable {hash : RunHash} {digests : List UnitDigest}

theorem tokens_eq_of_hashes_eq (weighs : ∀ left ∈ allStatements digests,
      ∀ right ∈ allStatements digests, left.hash = right.hash → left.tokens = right.tokens)
    {left right : List StatementDigest}
    (inLeft : ∀ statement ∈ left, statement ∈ allStatements digests)
    (inRight : ∀ statement ∈ right, statement ∈ allStatements digests)
    (same : (left.map fun statement => statement.hash) =
      right.map fun statement => statement.hash) :
    (left.map fun statement => statement.tokens) =
      right.map fun statement => statement.tokens := by
  induction left generalizing right with
  | nil =>
      cases right with
      | nil => rfl
      | cons head rest => simp at same
  | cons first others ih =>
      cases right with
      | nil => simp at same
      | cons head rest =>
          simp only [List.map_cons, List.cons.injEq] at same ⊢
          exact ⟨weighs first (inLeft first (by simp)) head (inRight head (by simp)) same.1,
            ih (fun statement member => inLeft statement (by simp [member]))
              (fun statement member => inRight statement (by simp [member])) same.2⟩

theorem span_tokens_eq_of_same_content (coherent : Coherent hash digests) {left right : Span}
    (same : spanHashes digests left = spanHashes digests right) :
    spanTokens digests left = spanTokens digests right := by
  rw [span_tokens_eq_foldr, span_tokens_eq_foldr,
    tokens_eq_of_hashes_eq coherent.weighs (fun _ => mem_all_statements)
      (fun _ => mem_all_statements) same]

/-- Under a coherent hash, size is a matter of content. -/
theorem large_of_same_content (coherent : Coherent hash digests) {thresholds : Thresholds}
    {left right : Span} (leftWindow : IsWindow digests left) (rightWindow : IsWindow digests right)
    (same : spanHashes digests left = spanHashes digests right)
    (large : isLargeEnough digests thresholds left = true) :
    isLargeEnough digests thresholds right = true := by
  rw [isLargeEnough, ← length_eq_of_same_content leftWindow rightWindow same,
    ← span_tokens_eq_of_same_content coherent same]
  exact large

end Sizes
end CodeAudit
