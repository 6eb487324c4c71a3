import CodeAudit.Proofs.Clone.IntervalUnion
import CodeAudit.Proofs.Clone.Occurrence

/-!
Diagonals. A link joins a first occurrence to a run with the same content apart from it. Along one
diagonal the two routines agree at every position that a link covers, so what the links of a
diagonal make together repeats as well. It begins with a first occurrence and is one.
-/

namespace CodeAudit

/-- A large enough first occurrence and a run with the same content apart from it. -/
structure Repeats (digests : List UnitDigest) (thresholds : Thresholds) (first other : Span) :
    Prop where
  least : IsFirst digests first
  window : IsWindow digests other
  same : spanHashes digests first = spanHashes digests other
  apart : first.overlaps other = false
  large : isLargeEnough digests thresholds first = true

namespace Diagonal

def firstSpan (diagonal : Diagonal) (interval : Nat × Nat) : Span :=
  ⟨diagonal.firstUnit, diagonal.firstRoutine, interval.1, interval.2⟩

def otherSpan (diagonal : Diagonal) (interval : Nat × Nat) : Span :=
  ⟨diagonal.otherUnit, diagonal.otherRoutine, (interval.1 + diagonal.distance).toNat,
    (interval.2 + diagonal.distance).toNat⟩

end Diagonal

/-- What a link says: the interval repeats at the distance of the diagonal. -/
structure RepeatsOn (digests : List UnitDigest) (thresholds : Thresholds) (diagonal : Diagonal)
    (interval : Nat × Nat) : Prop where
  reaches : 0 ≤ interval.1 + diagonal.distance
  repeated : Repeats digests thresholds (diagonal.firstSpan interval) (diagonal.otherSpan interval)

/-- What is left of `RepeatsOn` for a union of intervals, which may overlap its own repeat. -/
structure AgreesOn (digests : List UnitDigest) (thresholds : Thresholds) (diagonal : Diagonal)
    (interval : Nat × Nat) : Prop where
  reaches : 0 ≤ interval.1 + diagonal.distance
  least : IsFirst digests (diagonal.firstSpan interval)
  window : IsWindow digests (diagonal.otherSpan interval)
  same : spanHashes digests (diagonal.firstSpan interval) =
    spanHashes digests (diagonal.otherSpan interval)
  large : isLargeEnough digests thresholds (diagonal.firstSpan interval) = true

section OneDiagonal

variable {digests : List UnitDigest} {thresholds : Thresholds} {diagonal : Diagonal}
  {interval : Nat × Nat}

/-- The content of the two spans of an interval is compared position by position. -/
theorem same_on_diagonal_iff (reaches : 0 ≤ interval.1 + diagonal.distance)
    (proper : interval.1 ≤ interval.2) :
    spanHashes digests (diagonal.firstSpan interval) =
        spanHashes digests (diagonal.otherSpan interval) ↔
      ∀ position : Nat, interval.1 ≤ position → position < interval.2 →
        hashAt? digests diagonal.firstUnit diagonal.firstRoutine position =
          hashAt? digests diagonal.otherUnit diagonal.otherRoutine
            (position + diagonal.distance).toNat := by
  have equalLength :
      (diagonal.firstSpan interval).length = (diagonal.otherSpan interval).length := by
    simp only [Diagonal.firstSpan, Diagonal.otherSpan, Span.length]
    omega
  rw [same_content_iff equalLength]
  simp only [Diagonal.firstSpan, Diagonal.otherSpan, Span.length]
  constructor
  · intro agree position lower upper
    have entry := agree (position - interval.1) (by omega)
    have here : interval.1 + (position - interval.1) = position := by omega
    have there : (interval.1 + diagonal.distance).toNat + (position - interval.1) =
        (position + diagonal.distance).toNat := by omega
    rwa [here, there] at entry
  · intro agree index bound
    have entry := agree (interval.1 + index) (by omega) (by omega)
    have there : ((interval.1 + index : Nat) + diagonal.distance).toNat =
        (interval.1 + diagonal.distance).toNat + index := by omega
    rwa [there] at entry

theorem Repeats.precedes {first other : Span} (repeats : Repeats digests thresholds first other) :
    first.Precedes other := by
  rcases eq_or_precedes_of_is_first repeats.least repeats.window repeats.same.symm with
    equal | precedes
  · have proper := repeats.least.window.1
    have apart := (Span.apart_iff first other).mp repeats.apart
    subst equal
    omega
  · exact precedes

theorem diagonal_between_spans (reaches : 0 ≤ interval.1 + diagonal.distance) :
    Diagonal.between (diagonal.firstSpan interval) (diagonal.otherSpan interval) = diagonal := by
  obtain ⟨firstUnit, firstRoutine, otherUnit, otherRoutine, distance⟩ := diagonal
  simp only [Diagonal.between, Diagonal.firstSpan, Diagonal.otherSpan, Diagonal.mk.injEq,
    true_and] at *
  omega

theorem spans_of_between {first other : Span} (equalLength : first.length = other.length)
    (firstProper : first.start ≤ first.stop) (otherProper : other.start ≤ other.stop) :
    (Diagonal.between first other).firstSpan (first.start, first.stop) = first ∧
      (Diagonal.between first other).otherSpan (first.start, first.stop) = other := by
  obtain ⟨unit, routine, start, stop⟩ := first
  obtain ⟨otherUnit, otherRoutine, otherStart, otherStop⟩ := other
  simp only [Diagonal.between, Diagonal.firstSpan, Diagonal.otherSpan, Span.length,
    Span.mk.injEq, true_and] at *
  omega

theorem repeats_on_between {first other : Span}
    (repeats : Repeats digests thresholds first other) :
    RepeatsOn digests thresholds (Diagonal.between first other) (first.start, first.stop) := by
  have equalLength := length_eq_of_same_content repeats.least.window repeats.window repeats.same
  obtain ⟨firstSame, otherSame⟩ := spans_of_between equalLength
    (Nat.le_of_lt repeats.least.window.1) (Nat.le_of_lt repeats.window.1)
  refine ⟨?_, ?_⟩
  · simp only [Diagonal.between]
    omega
  · rw [firstSame, otherSame]
    exact repeats

end OneDiagonal

namespace Clone

/-- The windows among which links are looked for. -/
def largeWindows (hash : RunHash) (digests : List UnitDigest) (thresholds : Thresholds) :
    List Window :=
  (windows hash digests).filter fun window => isLargeEnough digests thresholds window.span

def intervalsOn (found : List Link) (diagonal : Diagonal) : List (Nat × Nat) :=
  (found.filter fun link => link.diagonal == diagonal).map fun link => link.interval

section Links

variable {hash : RunHash} {digests : List UnitDigest} {thresholds : Thresholds}

theorem mem_large_windows {window : Window} : window ∈ largeWindows hash digests thresholds ↔
    IsWindow digests window.span ∧ isLargeEnough digests thresholds window.span = true ∧
      window.fingerprint = spanFingerprint hash digests window.span := by
  simp only [largeWindows, windows, List.mem_filter, List.mem_map]
  constructor
  · rintro ⟨⟨span, member, rfl⟩, large⟩
    exact ⟨mem_all_spans.mp member, large, rfl⟩
  · rintro ⟨inside, large, print⟩
    exact ⟨⟨window.span, mem_all_spans.mpr inside, by rw [← print]⟩, large⟩

theorem large_windows_ordered (hash : RunHash) (digests : List UnitDigest)
    (thresholds : Thresholds) : (largeWindows hash digests thresholds).Pairwise
      fun left right => left.span.Before right.span := by
  apply List.Pairwise.filter
  rw [windows, List.pairwise_map]
  exact all_spans_ordered digests

/-- The first window with the fingerprint of a large one is the first occurrence of its content. -/
theorem find?_is_first (coherent : Coherent hash digests) {here : Window}
    (member : here ∈ largeWindows hash digests thresholds) :
    ∃ first, (largeWindows hash digests thresholds).find?
        (fun window => window.fingerprint == here.fingerprint) = some first ∧
      IsFirst digests first.span ∧ isLargeEnough digests thresholds first.span = true ∧
      spanHashes digests first.span = spanHashes digests here.span := by
  have hereFacts := mem_large_windows.mp member
  have present : ((largeWindows hash digests thresholds).find?
      fun window => window.fingerprint == here.fingerprint).isSome :=
    List.find?_isSome.mpr ⟨here, member, beq_self_eq_true here.fingerprint⟩
  obtain ⟨first, found⟩ := Option.isSome_iff_exists.mp present
  have firstFacts := mem_large_windows.mp (List.mem_of_find?_eq_some found)
  have prints : first.fingerprint = here.fingerprint := by
    simpa using List.find?_some found
  have same : spanHashes digests first.span = spanHashes digests here.span := by
    apply coherent.separates first.span here.span firstFacts.1 hereFacts.1
    rw [← firstFacts.2.2, ← hereFacts.2.2, prints]
  refine ⟨first, found, ⟨firstFacts.1, fun other window otherSame => ?_⟩, firstFacts.2.1, same⟩
  -- An occurrence is large as well, and so it is one of the windows searched.
  have large := large_of_same_content coherent firstFacts.1 window otherSame.symm firstFacts.2.1
  have listed : (⟨other, spanFingerprint hash digests other⟩ : Window) ∈
      largeWindows hash digests thresholds := mem_large_windows.mpr ⟨window, large, rfl⟩
  have accepted : (spanFingerprint hash digests other == here.fingerprint) = true := by
    rw [hereFacts.2.2, fingerprint_eq_of_same_content (otherSame.trans same)]
    exact beq_self_eq_true _
  rcases find?_first (large_windows_ordered hash digests thresholds) found listed accepted with
    equal | before
  · rw [equal]
    exact Span.precedes_irrefl other
  · exact Span.not_precedes_of_before before

theorem mem_links (coherent : Coherent hash digests) {link : Link} :
    link ∈ links (largeWindows hash digests thresholds) ↔
      ∃ first other, Repeats digests thresholds first other ∧
        link = ⟨Diagonal.between first other, (first.start, first.stop)⟩ := by
  rw [links, List.mem_filterMap]
  constructor
  · rintro ⟨here, member, linked⟩
    obtain ⟨first, found, least, large, same⟩ := find?_is_first coherent member
    rw [link?, found, Option.bind_some] at linked
    split at linked
    · cases linked
    · rename_i apart
      refine ⟨first.span, here.span, ?_, (Option.some.inj linked).symm⟩
      exact ⟨least, (mem_large_windows.mp member).1, same, by simpa using apart, large⟩
  · rintro ⟨first, other, repeats, rfl⟩
    have large := large_of_same_content coherent repeats.least.window repeats.window repeats.same
      repeats.large
    have member : (⟨other, spanFingerprint hash digests other⟩ : Window) ∈
        largeWindows hash digests thresholds := mem_large_windows.mpr ⟨repeats.window, large, rfl⟩
    refine ⟨_, member, ?_⟩
    obtain ⟨found, isFound, least, _, same⟩ := find?_is_first coherent member
    have firstFound : found.span = first :=
      is_first_unique least repeats.least (same.trans repeats.same.symm)
    rw [link?, isFound, Option.bind_some, firstFound, if_neg (by simp [repeats.apart])]

theorem mem_intervals_on (coherent : Coherent hash digests) {diagonal : Diagonal}
    {interval : Nat × Nat} :
    interval ∈ intervalsOn (links (largeWindows hash digests thresholds)) diagonal ↔
      RepeatsOn digests thresholds diagonal interval := by
  simp only [intervalsOn, List.mem_map, List.mem_filter, beq_iff_eq]
  constructor
  · rintro ⟨link, ⟨member, rfl⟩, rfl⟩
    obtain ⟨first, other, repeats, rfl⟩ := (mem_links coherent).mp member
    exact repeats_on_between repeats
  · intro repeats
    have between := diagonal_between_spans repeats.reaches
    refine ⟨⟨diagonal, interval⟩, ⟨(mem_links coherent).mpr ?_, rfl⟩, rfl⟩
    exact ⟨diagonal.firstSpan interval, diagonal.otherSpan interval, repeats.repeated,
      by rw [between]; rfl⟩

end Links
end Clone
end CodeAudit
