import CodeAudit.Proofs.Clone.Search
import Mathlib.Data.List.Permutation

/-!
What the search for clones guarantees under a coherent hash. What it reports is repeated content
with its places in order and apart, the first one being the first in the input. A large run that
occurs twice is part of what is reported, and what is reported cannot be made longer.
-/

namespace CodeAudit

structure SoundClone (hash : RunHash) (digests : List UnitDigest) (thresholds : Thresholds)
    (clone : Clone) : Prop where
  several : 2 ≤ clone.spans.length
  windows : ∀ span ∈ clone.spans, IsWindow digests span
  same : ∀ span ∈ clone.spans, spanHashes digests span = spanHashes digests clone.first
  fingerprint : ∀ span ∈ clone.spans, spanFingerprint hash digests span = clone.fingerprint
  ordered : clone.spans.Pairwise Span.Precedes
  apart : clone.spans.Pairwise fun left right => left.overlaps right = false
  statements : ∀ span ∈ clone.spans, max 1 thresholds.blockStatements ≤ span.length
  tokens : ∀ span ∈ clone.spans, thresholds.blockTokens ≤ spanTokens digests span
  least : ∀ window, IsWindow digests window →
    spanHashes digests window = spanHashes digests clone.first →
      clone.first = window ∨ clone.first.Precedes window

namespace Clone

section Guarantees

variable {hash : RunHash} {digests : List UnitDigest} {thresholds : Thresholds}

theorem large_iff (span : Span) : isLargeEnough digests thresholds span = true ↔
    max 1 thresholds.blockStatements ≤ span.length ∧
      thresholds.blockTokens ≤ spanTokens digests span := by
  rw [isLargeEnough, Bool.and_eq_true, decide_eq_true_eq, decide_eq_true_eq, Nat.max_comm]

theorem sound_headed_by (coherent : Coherent hash digests) {first other : Span}
    (repeats : Repeats digests thresholds first other) :
    SoundClone hash digests thresholds (headedBy hash digests first) := by
  have spans := spans_headed_by hash repeats.least
  have listed := listed_apart digests first
  have large : ∀ span ∈ (headedBy hash digests first).spans,
      isLargeEnough digests thresholds span = true := by
    intro span member
    obtain ⟨window, same⟩ := listed_window (spans ▸ member)
    exact large_of_same_content coherent repeats.least.window window same.symm repeats.large
  constructor
  · have nonempty := List.length_pos_of_ne_nil (repeats_ne_nil hash repeats)
    rw [Clone.spans, List.length_cons]
    omega
  · intro span member
    exact (listed_window (spans ▸ member)).1
  · intro span member
    exact (listed_window (spans ▸ member)).2
  · intro span member
    exact fingerprint_eq_of_same_content (listed_window (spans ▸ member)).2
  · rw [spans]
    exact listed.imp fun related => related.1
  · rw [spans]
    exact listed.imp fun related => related.2
  · intro span member
    exact ((large_iff span).mp (large span member)).1
  · intro span member
    exact ((large_iff span).mp (large span member)).2
  · intro window isWindow same
    exact eq_or_precedes_of_is_first repeats.least isWindow same

theorem sound_of_mem_search (coherent : Coherent hash digests) {clone : Clone}
    (member : clone ∈ search hash digests thresholds) :
    SoundClone hash digests thresholds clone := by
  rw [search_eq coherent, List.mem_map] at member
  obtain ⟨first, inFirsts, rfl⟩ := member
  obtain ⟨other, repeats⟩ := exists_repeat_of_mem_firsts coherent inFirsts
  exact sound_headed_by coherent repeats

theorem search_ordered (coherent : Coherent hash digests) :
    (search hash digests thresholds).Pairwise fun left right =>
      left.fingerprint ≠ right.fingerprint ∧ left.first.Before right.first := by
  rw [search_eq coherent, List.pairwise_map]
  exact (List.pairwise_map.mp (fingerprints_nodup coherent)).and (ordered_pairwise _)

/-- A run apart from an earlier one with its content is a repeat of the first occurrence. -/
theorem exists_first_repeated (coherent : Coherent hash digests) {earlier later : Span}
    (earlierWindow : IsWindow digests earlier) (laterWindow : IsWindow digests later)
    (order : earlier.Precedes later) (apart : earlier.overlaps later = false)
    (same : spanHashes digests earlier = spanHashes digests later)
    (large : isLargeEnough digests thresholds later = true) :
    ∃ first, Repeats digests thresholds first later := by
  obtain ⟨first, least, firstSame⟩ := exists_is_first laterWindow
  have firstLarge := large_of_same_content coherent laterWindow least.window firstSame.symm large
  refine ⟨first, least, laterWindow, firstSame, ?_, firstLarge⟩
  rcases eq_or_precedes_of_is_first least earlierWindow (same.trans firstSame.symm) with
    equal | precedes
  · rw [equal]
    exact apart
  · have firstLength := length_eq_of_same_content least.window laterWindow firstSame
    have earlierLength := length_eq_of_same_content earlierWindow laterWindow same
    have firstProper := least.window.1
    have earlierProper := earlierWindow.1
    have laterProper := laterWindow.1
    rw [Span.apart_iff] at *
    simp only [Span.Precedes, Span.length] at *
    omega

theorem exists_joined_on (coherent : Coherent hash digests) {first other : Span}
    (repeats : Repeats digests thresholds first other) :
    ∃ joined ∈ joinedOn hash digests thresholds (Diagonal.between first other),
      joined.1 ≤ first.start ∧ first.stop ≤ joined.2 :=
  Interval.merge_covers ((mem_intervals_on coherent).mpr (repeats_on_between repeats))

theorem exists_clone_overlapping (coherent : Coherent hash digests) {first other : Span}
    (repeats : Repeats digests thresholds first other) :
    ∃ clone ∈ search hash digests thresholds,
      clone.first.sameRoutine first = true ∧ clone.first.overlaps first = true := by
  obtain ⟨joined, member, starts, stops⟩ := exists_joined_on coherent repeats
  have proper := repeats.least.window.1
  refine ⟨_, (mem_search coherent).mpr ⟨_, joined, member, rfl⟩, ?_⟩
  rw [headedBy, Span.same_routine_iff, Span.overlaps_iff]
  cases overlaps : ((Diagonal.between first other).firstSpan joined).overlaps
      ((Diagonal.between first other).otherSpan joined) with
  | false =>
      rw [span_on_of_apart overlaps]
      refine ⟨⟨rfl, rfl⟩, rfl, rfl, ?_, ?_⟩ <;> simp only [Diagonal.firstSpan] <;> omega
  | true =>
      obtain ⟨_, _, positive, _⟩ := distance_of_overlaps coherent member overlaps
      have inPeriod := start_lt_of_overlaps coherent member overlaps
        (repeats_on_between repeats).repeated.least stops
      rw [span_on_of_overlaps overlaps]
      refine ⟨⟨rfl, rfl⟩, rfl, rfl, ?_, ?_⟩ <;>
        simp only [Diagonal.firstSpan, Span.part] at inPeriod ⊢ <;> omega

/-- A first occurrence repeated in another routine lies in the first span of a clone, and its
repeat in the run at the same distance, which the clone lists or keeps out for an overlap. -/
theorem exists_clone_containing (coherent : Coherent hash digests) {first other : Span}
    (repeats : Repeats digests thresholds first other)
    (elsewhere : first.sameRoutine other = false) :
    ∃ clone ∈ search hash digests thresholds, first.Within clone.first ∧ ∃ shifted : Span,
      shifted.unit = other.unit ∧ shifted.routine = other.routine ∧
      shifted.start + first.start = clone.first.start + other.start ∧
      shifted.stop + first.start = clone.first.stop + other.start ∧
      IsWindow digests shifted ∧
      spanHashes digests shifted = spanHashes digests clone.first ∧ other.Within shifted ∧
      (shifted ∈ clone.repeats ∨
        ∃ listed ∈ clone.repeats, listed.overlaps shifted = true ∧ listed.Precedes shifted) := by
  obtain ⟨joined, member, starts, stops⟩ := exists_joined_on coherent repeats
  have apart : ((Diagonal.between first other).firstSpan joined).overlaps
      ((Diagonal.between first other).otherSpan joined) = false := by
    rw [← Bool.not_eq_true, Span.same_routine_iff] at elsewhere
    rw [Span.apart_iff]
    intro sameUnit sameRoutine
    exact absurd ⟨sameUnit, sameRoutine⟩ elsewhere
  have joinedRepeats := repeats_of_apart coherent member apart
  have reaches := (agrees_on_of_mem_joined_on coherent member).reaches
  have equalLength := length_eq_of_same_content repeats.least.window repeats.window repeats.same
  have proper := repeats.least.window.1
  have otherProper := repeats.window.1
  have listed := repeat_listed_or_overlapped hash joinedRepeats
  refine ⟨_, (mem_search coherent).mpr ⟨_, joined, member, rfl⟩, ?_,
    (Diagonal.between first other).otherSpan joined, rfl, rfl, ?_, ?_, joinedRepeats.window,
    joinedRepeats.same.symm, ⟨rfl, rfl, ?_, ?_⟩, listed⟩
  · rw [headedBy, span_on_of_apart apart]
    exact ⟨rfl, rfl, starts, stops⟩
  · rw [headedBy, span_on_of_apart apart]
    simp only [Diagonal.between, Diagonal.firstSpan, Diagonal.otherSpan] at reaches ⊢
    omega
  · rw [headedBy, span_on_of_apart apart]
    simp only [Diagonal.between, Diagonal.firstSpan, Diagonal.otherSpan] at reaches ⊢
    omega
  · simp only [Diagonal.between, Diagonal.otherSpan]
    omega
  · simp only [Diagonal.between, Diagonal.otherSpan, Span.length] at equalLength ⊢
    omega

end Guarantees

/-- A statement of ten tokens. -/
def sampleStatement (kind : UInt8) (line : Nat) : StatementDigest :=
  ⟨⟨List.replicate 32 kind⟩, 10, line, line⟩

/-- Three statements as the body of a routine in each of two units, and the first two of them as
that of another. -/
def sampleDigests : List UnitDigest :=
  let body := [sampleStatement 7 1, sampleStatement 8 2, sampleStatement 9 3]
  [⟨"a.rs", ⟨List.replicate 32 0⟩, 6, 6, [⟨body⟩, ⟨[sampleStatement 7 5, sampleStatement 8 6]⟩]⟩,
    ⟨"b.rs", ⟨List.replicate 32 1⟩, 3, 3, [⟨body⟩]⟩]

def sampleThresholds : Thresholds := ⟨5, 20, 2⟩

def plainHash : RunHash := fun bytes => ⟨bytes⟩

theorem sample_coherent : Coherent Fingerprint.ofBytes sampleDigests := by
  decide +kernel

theorem sample_search : (search plainHash sampleDigests sampleThresholds).map Clone.spans =
    [[⟨0, 0, 0, 2⟩, ⟨0, 1, 0, 2⟩, ⟨1, 0, 0, 2⟩], [⟨0, 0, 0, 3⟩, ⟨1, 0, 0, 3⟩]] := by
  cbv

theorem sample_clone : ∃ clone,
    clone ∈ search Fingerprint.ofBytes sampleDigests sampleThresholds := by
  have earlierWindow : IsWindow sampleDigests ⟨0, 0, 0, 3⟩ := by decide
  have laterWindow : IsWindow sampleDigests ⟨1, 0, 0, 3⟩ := by decide
  have large : isLargeEnough sampleDigests sampleThresholds ⟨1, 0, 0, 3⟩ = true := by decide
  obtain ⟨first, repeats⟩ := exists_first_repeated sample_coherent earlierWindow laterWindow
    (by decide) (by decide) (by decide) large
  obtain ⟨clone, member, _⟩ := exists_clone_overlapping sample_coherent repeats
  exact ⟨clone, member⟩

/-- Every reported clone is sound; different clones have different fingerprints and stand in the
order of their first spans. -/
theorem search_sound {hash : RunHash} {digests : List UnitDigest} (thresholds : Thresholds)
    (coherent : Coherent hash digests) :
    (∀ clone ∈ search hash digests thresholds, SoundClone hash digests thresholds clone) ∧
      (search hash digests thresholds).Pairwise fun left right =>
        left.fingerprint ≠ right.fingerprint ∧ left.first.Before right.first :=
  ⟨fun _ member => sound_of_mem_search coherent member, search_ordered coherent⟩

theorem search_sound_sample : ∃ clone,
    clone ∈ search Fingerprint.ofBytes sampleDigests sampleThresholds ∧
      SoundClone Fingerprint.ofBytes sampleDigests sampleThresholds clone := by
  obtain ⟨clone, member⟩ := sample_clone
  exact ⟨clone, member, (search_sound sampleThresholds sample_coherent).1 clone member⟩

/-- A large run that occurs twice is found: the first span of a clone overlaps the first occurrence
of its content. Where a repeat is in another routine, the first span of a clone holds the first
occurrence whole, and the run at the same distance in the other routine holds the repeat. That run
has the content of the clone and is listed, unless it overlaps a run that is listed before it. -/
theorem repeated_run_found {hash : RunHash} {digests : List UnitDigest} (thresholds : Thresholds)
    (coherent : Coherent hash digests) {earlier later : Span}
    (earlierWindow : IsWindow digests earlier) (laterWindow : IsWindow digests later)
    (order : earlier.Precedes later) (apart : earlier.overlaps later = false)
    (same : spanHashes digests earlier = spanHashes digests later)
    (statements : max 1 thresholds.blockStatements ≤ later.length)
    (tokens : thresholds.blockTokens ≤ spanTokens digests later) :
    ∃ first, IsFirst digests first ∧ spanHashes digests first = spanHashes digests later ∧
      (∃ clone ∈ search hash digests thresholds,
        clone.first.sameRoutine first = true ∧ clone.first.overlaps first = true) ∧
      (first.sameRoutine later = false →
        ∃ clone ∈ search hash digests thresholds, first.Within clone.first ∧ ∃ shifted : Span,
          shifted.unit = later.unit ∧ shifted.routine = later.routine ∧
          shifted.start + first.start = clone.first.start + later.start ∧
          shifted.stop + first.start = clone.first.stop + later.start ∧
          IsWindow digests shifted ∧
          spanHashes digests shifted = spanHashes digests clone.first ∧ later.Within shifted ∧
          (shifted ∈ clone.repeats ∨ ∃ listed ∈ clone.repeats,
            listed.overlaps shifted = true ∧ listed.Precedes shifted)) := by
  obtain ⟨first, repeats⟩ := exists_first_repeated coherent earlierWindow laterWindow order apart
    same ((large_iff later).mpr ⟨statements, tokens⟩)
  exact ⟨first, repeats.least, repeats.same, exists_clone_overlapping coherent repeats,
    exists_clone_containing coherent repeats⟩

/-- The first occurrence in the sample is in the other unit, so both parts apply. -/
theorem repeated_run_found_sample :
    ∃ first, IsFirst sampleDigests first ∧ first.sameRoutine ⟨1, 0, 0, 2⟩ = false ∧
      ∃ clone ∈ search Fingerprint.ofBytes sampleDigests sampleThresholds,
        first.Within clone.first := by
  obtain ⟨first, least, same, _, elsewhere⟩ := repeated_run_found sampleThresholds sample_coherent
    (show IsWindow sampleDigests ⟨0, 1, 0, 2⟩ by decide)
    (show IsWindow sampleDigests ⟨1, 0, 0, 2⟩ by decide) (by decide) (by decide) (by decide)
    (by decide) (by decide)
  have headSame :
      spanHashes sampleDigests ⟨0, 0, 0, 2⟩ = spanHashes sampleDigests ⟨1, 0, 0, 2⟩ := by
    decide
  have notLater := least.least ⟨0, 0, 0, 2⟩ (by decide) (headSame.trans same.symm)
  have apart : first.sameRoutine ⟨1, 0, 0, 2⟩ = false := by
    rw [← Bool.not_eq_true, Span.same_routine_iff]
    rintro ⟨sameUnit, _⟩
    simp only [Span.Precedes] at notLater sameUnit
    omega
  obtain ⟨clone, member, within, _⟩ := elsewhere apart
  exact ⟨first, least, apart, clone, member, within⟩

/-- A reported span has an occurrence apart from it that either begins where the span ends, or has
no common statement with it before the two or after them. -/
theorem clone_first_maximal {hash : RunHash} {digests : List UnitDigest} {thresholds : Thresholds}
    (coherent : Coherent hash digests) {clone : Clone}
    (member : clone ∈ search hash digests thresholds) :
    ∃ other, IsWindow digests other ∧
      spanHashes digests other = spanHashes digests clone.first ∧
      clone.first.overlaps other = false ∧
      (Adjoining clone.first other ∨
        ¬ SameBefore digests clone.first other ∧ ¬ SameAfter digests clone.first other) := by
  obtain ⟨diagonal, joined, inJoined, rfl⟩ := (mem_search coherent).mp member
  rw [headedBy]
  cases overlaps : (diagonal.firstSpan joined).overlaps (diagonal.otherSpan joined) with
  | false =>
      have repeats := repeats_of_apart coherent inJoined overlaps
      refine ⟨diagonal.otherSpan joined, repeats.window, repeats.same.symm, repeats.apart, ?_⟩
      rw [span_on_of_apart overlaps]
      by_cases adjoining : Adjoining (diagonal.firstSpan joined) (diagonal.otherSpan joined)
      · exact Or.inl adjoining
      · exact Or.inr ⟨not_same_before coherent inJoined overlaps adjoining,
          not_same_after coherent inJoined overlaps adjoining⟩
  | true =>
      have repeats := repeats_of_overlaps coherent inJoined overlaps
      exact ⟨_, repeats.window, repeats.same.symm, repeats.apart,
        Or.inl (adjoining_of_overlaps coherent inJoined overlaps)⟩

/-- The longest run of the sample is joined from shorter ones. It ends with both routines. -/
theorem clone_first_maximal_sample : ∃ clone,
    clone ∈ search plainHash sampleDigests sampleThresholds ∧ clone.first = ⟨0, 0, 0, 3⟩ ∧
      ∃ other, spanHashes sampleDigests other = spanHashes sampleDigests clone.first ∧
        clone.first.overlaps other = false ∧ ¬SameBefore sampleDigests clone.first other ∧
          ¬SameAfter sampleDigests clone.first other := by
  have coherent : Coherent plainHash sampleDigests := by decide
  have listed : [⟨0, 0, 0, 3⟩, ⟨1, 0, 0, 3⟩] ∈
      (search plainHash sampleDigests sampleThresholds).map Clone.spans := by
    simp [sample_search]
  obtain ⟨clone, member, spans⟩ := List.mem_map.mp listed
  have isFirst : clone.first = ⟨0, 0, 0, 3⟩ := (List.cons.inj spans).1
  obtain ⟨other, window, same, apart, maximal⟩ := clone_first_maximal coherent member
  refine ⟨clone, member, isFirst, other, same, apart, maximal.resolve_left ?_⟩
  -- Nothing can adjoin the span, for its routine ends with it.
  rintro ⟨unit, routine, start⟩
  have bound := window.2
  rw [← unit, ← routine, isFirst] at bound
  have statements : (routineStatements sampleDigests 0 0).length = 3 := by decide
  have begins : other.start = 3 := by rw [start, isFirst]
  have proper := window.1
  rw [statements] at bound
  omega

end Clone
end CodeAudit
