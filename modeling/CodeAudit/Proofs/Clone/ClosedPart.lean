import CodeAudit.Proofs.Clone.Rearrangement
import CodeAudit.Proofs.Clone.Search
import CodeAudit.Proofs.StableSort
import Mathlib.Order.Monotone.Basic

/-!
The search on a part of the units. Where the content of the part occurs nowhere else, first
occurrences, links and joined intervals of the part are those of all units at the places of the
part. So the clones found in the part are those of all units whose first span is in the part.
-/

namespace CodeAudit

/-- Some units, in their order among all units, with content that occurs in no other unit. The
unit at an index of the part has its `place` among all. -/
structure ClosedPart (inPart : Nat → Bool) (place : Nat → Nat)
    (part digests : List UnitDigest) : Prop where
  increasing : StrictMono place
  placed : ∀ index, digests[place index]? = part[index]?
  reached : ∀ unit, inPart unit = true → ∃ index, unit = place index
  accepted : ∀ index, index < part.length → inPart (place index) = true
  closed : ∀ span other, IsWindow part span → IsWindow digests other →
    spanHashes digests other = spanHashes part span → inPart other.unit = true

def Diagonal.moved (place : Nat → Nat) (diagonal : Diagonal) : Diagonal :=
  { diagonal with
    firstUnit := place diagonal.firstUnit
    otherUnit := place diagonal.otherUnit }

def Clone.moved (place : Nat → Nat) (clone : Clone) : Clone :=
  ⟨clone.fingerprint, clone.first.moved place, clone.repeats.map (Span.moved place)⟩

theorem unit_lt_of_window {digests : List UnitDigest} {span : Span}
    (window : IsWindow digests span) : span.unit < digests.length := by
  by_contra outside
  obtain ⟨proper, inside⟩ := window
  rw [routineStatements, List.getElem?_eq_none (Nat.le_of_not_lt outside)] at inside
  rw [List.length_nil] at inside
  omega

theorem Clone.spans_moved (place : Nat → Nat) (clone : Clone) :
    (clone.moved place).spans = clone.spans.map (Span.moved place) :=
  rfl

section Places

variable {place : Nat → Nat} (increasing : StrictMono place)

include increasing

theorem moved_injective : Function.Injective (Span.moved place) := by
  intro left right same
  obtain ⟨unit, routine, start, stop⟩ := left
  obtain ⟨otherUnit, otherRoutine, otherStart, otherStop⟩ := right
  simpa only [Span.moved, Span.mk.injEq, increasing.injective.eq_iff] using same

theorem precedes_moved_iff (left right : Span) :
    (left.moved place).Precedes (right.moved place) ↔ left.Precedes right := by
  simp only [Span.Precedes, Span.moved, increasing.lt_iff_lt, increasing.injective.eq_iff]

theorem before_moved_iff (left right : Span) :
    (left.moved place).Before (right.moved place) ↔ left.Before right := by
  rw [Span.Before, Span.Before, precedes_moved_iff increasing]
  simp only [Span.moved, increasing.injective.eq_iff]

theorem span_on_moved (diagonal : Diagonal) (interval : Nat × Nat) :
    Clone.spanOn (diagonal.moved place) interval =
      (Clone.spanOn diagonal interval).moved place := by
  have overlaps : ((diagonal.moved place).firstSpan interval).overlaps
      ((diagonal.moved place).otherSpan interval) =
        (diagonal.firstSpan interval).overlaps (diagonal.otherSpan interval) :=
    overlaps_moved increasing.injective (diagonal.firstSpan interval) (diagonal.otherSpan interval)
  cases meets : (diagonal.firstSpan interval).overlaps (diagonal.otherSpan interval) with
  | false =>
      rw [meets] at overlaps
      rw [Clone.span_on_of_apart meets, Clone.span_on_of_apart overlaps]
      rfl
  | true =>
      rw [meets] at overlaps
      rw [Clone.span_on_of_overlaps meets, Clone.span_on_of_overlaps overlaps]
      rfl

theorem spread_moved (last : Option Span) (spans : List Span) :
    Clone.spread (last.map (Span.moved place)) (spans.map (Span.moved place)) =
      (Clone.spread last spans).map (Span.moved place) := by
  induction spans generalizing last with
  | nil => rfl
  | cons span rest ih =>
      have meets : ((last.map (Span.moved place)).any fun kept =>
          kept.overlaps (span.moved place)) = last.any fun kept => kept.overlaps span := by
        cases last with
        | none => rfl
        | some kept => exact overlaps_moved increasing.injective kept span
      rw [List.map_cons, Clone.spread, Clone.spread, meets]
      split
      · exact ih last
      · rw [List.map_cons, ← ih (some span)]
        rfl

end Places

namespace ClosedPart

variable {inPart : Nat → Bool} {place : Nat → Nat} {part digests : List UnitDigest}
  (inside : ClosedPart inPart place part digests)

include inside

theorem is_window_moved_iff {span : Span} :
    IsWindow digests (span.moved place) ↔ IsWindow part span := by
  rw [IsWindow, IsWindow, ← routine_statements_moved inside.placed]
  rfl

theorem exists_source {span : Span} (accepted : inPart span.unit = true) :
    ∃ source : Span, span = source.moved place := by
  obtain ⟨index, isPlace⟩ := inside.reached span.unit accepted
  exact ⟨{ span with unit := index }, by rw [Span.moved, ← isPlace]⟩

theorem exists_source_of_same {span other : Span} (window : IsWindow part span)
    (otherWindow : IsWindow digests other)
    (same : spanHashes digests other = spanHashes part span) :
    ∃ source : Span, other = source.moved place ∧ IsWindow part source ∧
      spanHashes part source = spanHashes part span := by
  obtain ⟨source, rfl⟩ := inside.exists_source (inside.closed span other window otherWindow same)
  rw [span_hashes_moved inside.placed] at same
  exact ⟨source, rfl, inside.is_window_moved_iff.mp otherWindow, same⟩

theorem is_first_moved_iff {span : Span} :
    IsFirst digests (span.moved place) ↔ IsFirst part span := by
  constructor
  · intro least
    refine ⟨inside.is_window_moved_iff.mp least.window, ?_⟩
    intro other window same precedes
    apply least.least (other.moved place) (inside.is_window_moved_iff.mpr window)
    · rw [span_hashes_moved inside.placed, span_hashes_moved inside.placed, same]
    · exact (precedes_moved_iff inside.increasing other span).mpr precedes
  · intro least
    refine ⟨inside.is_window_moved_iff.mpr least.window, ?_⟩
    intro other window same precedes
    rw [span_hashes_moved inside.placed] at same
    obtain ⟨source, rfl, sourceWindow, sourceSame⟩ :=
      inside.exists_source_of_same least.window window same
    exact least.least source sourceWindow sourceSame
      ((precedes_moved_iff inside.increasing source span).mp precedes)

theorem large_moved (thresholds : Thresholds) (span : Span) :
    isLargeEnough digests thresholds (span.moved place) = isLargeEnough part thresholds span := by
  rw [isLargeEnough, span_tokens_moved inside.placed, isLargeEnough]
  rfl

theorem repeats_moved_iff {thresholds : Thresholds} {first other : Span} :
    Repeats digests thresholds (first.moved place) (other.moved place) ↔
      Repeats part thresholds first other := by
  have overlaps := overlaps_moved inside.increasing.injective first other
  have firstContent := span_hashes_moved inside.placed first
  have otherContent := span_hashes_moved inside.placed other
  have large := inside.large_moved thresholds first
  constructor
  · intro repeats
    exact ⟨inside.is_first_moved_iff.mp repeats.least,
      inside.is_window_moved_iff.mp repeats.window,
      firstContent.symm.trans (repeats.same.trans otherContent),
      overlaps.symm.trans repeats.apart, large.symm.trans repeats.large⟩
  · intro repeats
    exact ⟨inside.is_first_moved_iff.mpr repeats.least,
      inside.is_window_moved_iff.mpr repeats.window,
      firstContent.trans (repeats.same.trans otherContent.symm),
      overlaps.trans repeats.apart, large.trans repeats.large⟩

theorem repeats_on_moved_iff {thresholds : Thresholds} {diagonal : Diagonal}
    {interval : Nat × Nat} :
    RepeatsOn digests thresholds (diagonal.moved place) interval ↔
      RepeatsOn part thresholds diagonal interval := by
  constructor
  · intro repeats
    exact ⟨repeats.reaches, inside.repeats_moved_iff.mp repeats.repeated⟩
  · intro repeats
    exact ⟨repeats.reaches, inside.repeats_moved_iff.mpr repeats.repeated⟩

theorem exists_diagonal {thresholds : Thresholds} {diagonal : Diagonal} {interval : Nat × Nat}
    (repeats : RepeatsOn digests thresholds diagonal interval)
    (accepted : inPart diagonal.firstUnit = true) :
    ∃ source : Diagonal, diagonal = source.moved place := by
  have firstAccepted : inPart (diagonal.firstSpan interval).unit = true := accepted
  obtain ⟨first, isFirst⟩ := inside.exists_source firstAccepted
  have same := repeats.repeated.same
  have window := repeats.repeated.least.window
  rw [isFirst] at same window
  rw [span_hashes_moved inside.placed] at same
  obtain ⟨other, isOther, _⟩ := inside.exists_source_of_same
    (inside.is_window_moved_iff.mp window) repeats.repeated.window same.symm
  have firstUnit : diagonal.firstUnit = place first.unit := congrArg Span.unit isFirst
  have otherUnit : diagonal.otherUnit = place other.unit := congrArg Span.unit isOther
  refine ⟨{ diagonal with firstUnit := first.unit, otherUnit := other.unit }, ?_⟩
  rw [Diagonal.moved, ← firstUnit, ← otherUnit]

theorem coherent {hash : RunHash} (coherent : Coherent hash digests) : Coherent hash part := by
  constructor
  · intro left right leftWindow rightWindow samePrint
    rw [← span_hashes_moved inside.placed, ← span_hashes_moved inside.placed]
    apply coherent.separates _ _ (inside.is_window_moved_iff.mpr leftWindow)
      (inside.is_window_moved_iff.mpr rightWindow)
    rw [span_fingerprint_moved inside.placed, span_fingerprint_moved inside.placed, samePrint]
  · have known : ∀ statement ∈ allStatements part, statement ∈ allStatements digests := by
      intro statement listed
      obtain ⟨digest, member, isStatement⟩ := List.mem_flatMap.mp listed
      obtain ⟨index, found⟩ := List.mem_iff_getElem?.mp member
      rw [← inside.placed] at found
      exact List.mem_flatMap.mpr ⟨digest, List.mem_of_getElem? found, isStatement⟩
    intro left inLeft right inRight
    exact coherent.weighs left (known left inLeft) right (known right inRight)

end ClosedPart

namespace Clone

section Occurrences

variable {inPart : Nat → Bool} {place : Nat → Nat} {part digests : List UnitDigest}
  (inside : ClosedPart inPart place part digests)

include inside

theorem occurrences_of_moved {span : Span} (window : IsWindow part span) :
    occurrencesOf digests (span.moved place) =
      (occurrencesOf part span).map (Span.moved place) := by
  refine eq_of_mem_iff_of_ordered ?_ (occurrences_of_ordered digests _) ?_ ?_
  · intro left right
    exact Span.precedes_asymm
  · apply List.pairwise_map.mpr
    apply (occurrences_of_ordered part span).imp
    intro left right
    exact (precedes_moved_iff inside.increasing left right).mpr
  · intro other
    rw [mem_occurrences_of, List.mem_map, span_hashes_moved inside.placed]
    constructor
    · rintro ⟨otherWindow, same⟩
      obtain ⟨source, rfl, sourceWindow, sourceSame⟩ :=
        inside.exists_source_of_same window otherWindow same
      exact ⟨source, mem_occurrences_of.mpr ⟨sourceWindow, sourceSame⟩, rfl⟩
    · rintro ⟨source, member, rfl⟩
      obtain ⟨sourceWindow, sourceSame⟩ := mem_occurrences_of.mp member
      rw [span_hashes_moved inside.placed]
      exact ⟨inside.is_window_moved_iff.mpr sourceWindow, sourceSame⟩

theorem headed_by_moved (hash : RunHash) {span : Span} (window : IsWindow part span) :
    headedBy hash digests (span.moved place) = (headedBy hash part span).moved place := by
  have listed := spread_moved inside.increasing none (occurrencesOf part span)
  rw [Option.map_none, ← occurrences_of_moved inside window] at listed
  rw [headedBy, span_fingerprint_moved inside.placed, listed, ← List.map_tail]
  rfl

end Occurrences

section Search

variable {inPart : Nat → Bool} {place : Nat → Nat} {part digests : List UnitDigest}
  {hash : RunHash} {thresholds : Thresholds}
  (inside : ClosedPart inPart place part digests) (coherent : Coherent hash digests)

theorem intervals_proper {digests : List UnitDigest} (coherent : Coherent hash digests)
    (diagonal : Diagonal) :
    ∀ interval ∈ intervalsOn (links (largeWindows hash digests thresholds)) diagonal,
      interval.1 < interval.2 := by
  intro interval member
  exact ((mem_intervals_on coherent).mp member).repeated.least.window.1

include inside coherent

theorem joined_on_moved (diagonal : Diagonal) :
    joinedOn hash digests thresholds (diagonal.moved place) =
      joinedOn hash part thresholds diagonal := by
  apply Interval.merge_eq_of_same (intervals_proper coherent _)
  intro interval
  rw [mem_intervals_on coherent, mem_intervals_on (inside.coherent coherent),
    inside.repeats_on_moved_iff]

theorem mem_firsts_moved {span : Span} :
    span.moved place ∈ firsts digests thresholds (windows hash digests) ↔
      span ∈ firsts part thresholds (windows hash part) := by
  have partCoherent := inside.coherent coherent
  constructor
  · intro member
    have window := inside.is_window_moved_iff.mp (is_first_of_mem_firsts coherent member).window
    have accepted := inside.accepted span.unit (unit_lt_of_window window)
    obtain ⟨diagonal, joined, inJoined, isSpan⟩ := (mem_firsts coherent).mp member
    obtain ⟨opening, inOpening, _⟩ := (Interval.merge_is_union_of _ joined inJoined).opens
    have sameUnit : place span.unit = diagonal.firstUnit := by
      have units := congrArg Span.unit isSpan
      rw [spanOn] at units
      split at units
      · exact units
      · exact units
    obtain ⟨source, rfl⟩ := inside.exists_diagonal ((mem_intervals_on coherent).mp inOpening)
      (sameUnit ▸ accepted)
    rw [span_on_moved inside.increasing] at isSpan
    rw [mem_firsts partCoherent]
    exact ⟨source, joined, joined_on_moved inside coherent source ▸ inJoined,
      moved_injective inside.increasing isSpan⟩
  · intro member
    obtain ⟨diagonal, joined, inJoined, rfl⟩ := (mem_firsts partCoherent).mp member
    rw [mem_firsts coherent]
    exact ⟨diagonal.moved place, joined, (joined_on_moved inside coherent diagonal).symm ▸ inJoined,
      (span_on_moved inside.increasing diagonal joined).symm⟩

theorem firsts_in_part :
    (firsts digests thresholds (windows hash digests)).filter (fun span => inPart span.unit) =
      (firsts part thresholds (windows hash part)).map (Span.moved place) := by
  refine eq_of_mem_iff_of_ordered ?_ ((ordered_pairwise _).filter _) ?_ ?_
  · intro left right before after
    exact Span.before_irrefl left (Span.before_trans before after)
  · apply List.pairwise_map.mpr
    apply (ordered_pairwise _).imp
    intro left right
    exact (before_moved_iff inside.increasing left right).mpr
  · intro span
    rw [List.mem_filter, List.mem_map]
    constructor
    · rintro ⟨member, accepted⟩
      obtain ⟨source, rfl⟩ := inside.exists_source accepted
      exact ⟨source, (mem_firsts_moved inside coherent).mp member, rfl⟩
    · rintro ⟨source, member, rfl⟩
      have window := (is_first_of_mem_firsts (inside.coherent coherent) member).window
      exact ⟨(mem_firsts_moved inside coherent).mpr member,
        inside.accepted source.unit (unit_lt_of_window window)⟩

/-- The search on the part finds the clones whose first span is in it. -/
theorem search_in_part :
    (search hash digests thresholds).filter (fun clone => inPart clone.first.unit) =
      (search hash part thresholds).map (Clone.moved place) := by
  have partCoherent := inside.coherent coherent
  rw [search_eq coherent, search_eq partCoherent, List.filter_map, List.map_map]
  have heads : (fun clone : Clone => inPart clone.first.unit) ∘ headedBy hash digests =
      fun span => inPart span.unit := rfl
  rw [heads, firsts_in_part inside coherent, List.map_map]
  apply List.map_congr_left
  intro span member
  exact headed_by_moved inside hash (is_first_of_mem_firsts partCoherent member).window

end Search
end Clone
end CodeAudit
