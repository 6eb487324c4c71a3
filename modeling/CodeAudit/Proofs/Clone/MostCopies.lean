import CodeAudit.Proofs.Clone.Guarantees
import Mathlib.Combinatorics.Enumerative.DoubleCounting
import Mathlib.Data.List.Permutation

/-!
A clone lists as many copies as can be listed. Each occurrence of the content begins in a listed
run, at its start or later. Two occurrences that begin in the same listed run both hold its last
statement, so of runs that lie apart no two begin in the same one.
-/

namespace CodeAudit

def Span.BeginsIn (span around : Span) : Prop :=
  around.unit = span.unit ∧ around.routine = span.routine ∧
    around.start ≤ span.start ∧ span.start < around.stop

/-- Places where the content of a span occurs, no two of which overlap. -/
structure ApartOccurrences (digests : List UnitDigest) (span : Span) (places : Finset Span) :
    Prop where
  windows : ∀ place ∈ places, IsWindow digests place
  same : ∀ place ∈ places, spanHashes digests place = spanHashes digests span
  apart : ∀ left ∈ places, ∀ right ∈ places, left ≠ right → left.overlaps right = false

namespace Clone

section Listed

variable {digests : List UnitDigest} {first : Span}

theorem begins_in_self {span : Span} (proper : span.start < span.stop) : span.BeginsIn span :=
  ⟨rfl, rfl, Nat.le_refl _, proper⟩

theorem begins_in_of_overlaps {kept span : Span} (overlaps : kept.overlaps span = true)
    (precedes : kept.Precedes span) : span.BeginsIn kept := by
  rw [Span.overlaps_iff] at overlaps
  simp only [Span.Precedes, Span.BeginsIn] at *
  omega

theorem exists_listed_around {place : Span} (window : IsWindow digests place)
    (same : spanHashes digests place = spanHashes digests first) :
    ∃ kept ∈ spread none (occurrencesOf digests first), place.BeginsIn kept := by
  rcases listed_or_overlapped window same with listed | ⟨kept, listed, overlaps, precedes⟩
  · exact ⟨place, listed, begins_in_self window.1⟩
  · exact ⟨kept, listed, begins_in_of_overlaps overlaps precedes⟩

/-- Runs of the same length that begin in one run of that length share its last statement. -/
theorem overlaps_of_begins_in {kept left right : Span} (leftLength : left.length = kept.length)
    (rightLength : right.length = kept.length) (leftIn : left.BeginsIn kept)
    (rightIn : right.BeginsIn kept) : left.overlaps right = true := by
  rw [Span.overlaps_iff]
  simp only [Span.length, Span.BeginsIn] at *
  omega

theorem begins_in_subsingleton {places : Finset Span}
    (occurrences : ApartOccurrences digests first places) {kept : Span}
    (listed : kept ∈ spread none (occurrencesOf digests first)) :
    {place | place ∈ places ∧ place.BeginsIn kept}.Subsingleton := by
  have keptFacts := listed_window listed
  have sameLength : ∀ place ∈ places, place.length = kept.length := by
    intro place member
    apply length_eq_of_same_content (occurrences.windows place member) keptFacts.1
    rw [occurrences.same place member, keptFacts.2]
  rintro left ⟨inLeft, leftBegins⟩ right ⟨inRight, rightBegins⟩
  by_contra different
  have overlaps := overlaps_of_begins_in (sameLength left inLeft) (sameLength right inRight)
    leftBegins rightBegins
  rw [occurrences.apart left inLeft right inRight different] at overlaps
  cases overlaps

theorem card_le_listed {places : Finset Span}
    (occurrences : ApartOccurrences digests first places) :
    places.card ≤ (spread none (occurrencesOf digests first)).toFinset.card := by
  apply Finset.card_le_card_of_forall_subsingleton Span.BeginsIn
  · intro place member
    simp only [List.mem_toFinset]
    exact exists_listed_around (occurrences.windows place member) (occurrences.same place member)
  · intro kept member
    exact begins_in_subsingleton occurrences (List.mem_toFinset.mp member)

theorem listed_nodup (digests : List UnitDigest) (first : Span) :
    (spread none (occurrencesOf digests first)).Nodup := by
  apply (listed_apart digests first).imp
  rintro left right ⟨precedes, _⟩ rfl
  exact Span.precedes_irrefl left precedes

theorem listed_apart_occurrences (digests : List UnitDigest) (first : Span) :
    ApartOccurrences digests first (spread none (occurrencesOf digests first)).toFinset := by
  constructor
  · intro place member
    exact (listed_window (List.mem_toFinset.mp member)).1
  · intro place member
    exact (listed_window (List.mem_toFinset.mp member)).2
  · intro left inLeft right inRight different
    rcases related_of_mem_pairwise (listed_apart digests first) (List.mem_toFinset.mp inLeft)
      (List.mem_toFinset.mp inRight) with equal | forward | backward
    · exact absurd equal different
    · exact forward.2
    · have apart := backward.2
      rw [Span.apart_iff] at apart ⊢
      have proper := (listed_window (List.mem_toFinset.mp inLeft)).1.1
      have otherProper := (listed_window (List.mem_toFinset.mp inRight)).1.1
      omega

end Listed

/-- The copies that a clone lists are places of its content that lie apart. Any other place of the
content overlaps one of them, and no set of places that lie apart has more members. -/
theorem clone_lists_most_copies {hash : RunHash} {digests : List UnitDigest}
    {thresholds : Thresholds} (coherent : Coherent hash digests) {clone : Clone}
    (member : clone ∈ search hash digests thresholds) :
    clone.spans.Nodup ∧
      ApartOccurrences digests clone.first clone.spans.toFinset ∧
      (∀ place, IsWindow digests place →
        spanHashes digests place = spanHashes digests clone.first →
          place ∈ clone.spans ∨ ∃ listed ∈ clone.spans, listed.overlaps place = true) ∧
      ∀ places, ApartOccurrences digests clone.first places →
        places.card ≤ clone.spans.toFinset.card := by
  rw [search_eq coherent, List.mem_map] at member
  obtain ⟨first, inFirsts, rfl⟩ := member
  have isHead : (headedBy hash digests first).first = first := rfl
  rw [spans_headed_by hash (is_first_of_mem_firsts coherent inFirsts), isHead]
  refine ⟨listed_nodup digests first, listed_apart_occurrences digests first, ?_, ?_⟩
  · intro place window same
    rcases listed_or_overlapped window same with listed | ⟨kept, listed, overlaps, _⟩
    · exact Or.inl listed
    · exact Or.inr ⟨kept, listed, overlaps⟩
  · intro places occurrences
    exact card_le_listed occurrences

/-- One routine that repeats a statement five times. -/
def periodicDigests : List UnitDigest :=
  [⟨"a.rs", ⟨List.replicate 32 0⟩, 5, 5,
    [⟨(List.range 5).map fun row => sampleStatement 7 (row + 1)⟩]⟩]

theorem periodic_search : (search plainHash periodicDigests ⟨5, 20, 2⟩).map Clone.spans =
    [[⟨0, 0, 0, 2⟩, ⟨0, 0, 2, 4⟩]] := by
  cbv

/-- Two equal statements occur at four places there, of which no three lie apart. -/
theorem clone_lists_most_copies_periodic : ∃ clone,
    clone ∈ search plainHash periodicDigests ⟨5, 20, 2⟩ ∧
      (occurrencesOf periodicDigests clone.first).length = 4 ∧
      ∀ places, ApartOccurrences periodicDigests clone.first places → places.card ≤ 2 := by
  have coherent : Coherent plainHash periodicDigests := by decide
  have listed : [⟨0, 0, 0, 2⟩, ⟨0, 0, 2, 4⟩] ∈
      (search plainHash periodicDigests ⟨5, 20, 2⟩).map Clone.spans := by
    simp [periodic_search]
  obtain ⟨clone, member, spans⟩ := List.mem_map.mp listed
  have isFirst : clone.first = ⟨0, 0, 0, 2⟩ := by
    simp only [Clone.spans, List.cons.injEq] at spans
    exact spans.1
  refine ⟨clone, member, by rw [isFirst]; decide, ?_⟩
  intro places occurrences
  have most := (clone_lists_most_copies coherent member).2.2.2 places occurrences
  rw [spans] at most
  exact most

end Clone
end CodeAudit
