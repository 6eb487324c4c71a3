import CodeAudit.Proofs.Clone.ClosedPart
import CodeAudit.Proofs.Clone.Reporting
import Mathlib.Data.List.Permutation

/-!
What the search depends on besides the digests. Any two coherent hashes lead to the same clones, up
to their fingerprints. Lower thresholds find more: what a clone repeats in another routine lies in
the first span of a clone that is found under them, and where they find nothing, higher ones find
nothing.
-/

namespace CodeAudit

namespace Clone

def rehashed (hash : RunHash) (digests : List UnitDigest) (clone : Clone) : Clone :=
  { clone with fingerprint := spanFingerprint hash digests clone.first }

section Hashes

variable {hash other : RunHash} {digests : List UnitDigest} {thresholds : Thresholds}
  (coherent : Coherent hash digests) (otherCoherent : Coherent other digests)

include coherent otherCoherent

theorem joined_on_eq_of_coherent (diagonal : Diagonal) :
    joinedOn hash digests thresholds diagonal = joinedOn other digests thresholds diagonal := by
  apply Interval.merge_eq_of_same (intervals_proper coherent diagonal)
  intro interval
  rw [mem_intervals_on coherent, mem_intervals_on otherCoherent]

theorem firsts_eq_of_coherent : firsts digests thresholds (windows hash digests) =
    firsts digests thresholds (windows other digests) := by
  have same : ∀ span, span ∈ firsts digests thresholds (windows hash digests) ↔
      span ∈ firsts digests thresholds (windows other digests) := by
    intro span
    rw [mem_firsts coherent, mem_firsts otherCoherent]
    simp only [joined_on_eq_of_coherent coherent otherCoherent]
  apply eq_of_mem_iff_of_ordered _ (ordered_pairwise _) (ordered_pairwise _) same
  intro left right before after
  exact Span.before_irrefl left (Span.before_trans before after)

/-- The hash gives the clones their fingerprints and nothing else. -/
theorem search_rehashed : search hash digests thresholds =
    (search other digests thresholds).map (rehashed hash digests) := by
  rw [search_eq coherent, search_eq otherCoherent, firsts_eq_of_coherent coherent otherCoherent,
    List.map_map]
  rfl

end Hashes

section Repeats

variable {hash : RunHash} {digests : List UnitDigest} {thresholds : Thresholds}
  (coherent : Coherent hash digests) {clone : Clone}
  (member : clone ∈ search hash digests thresholds)

include coherent member

theorem is_first_of_mem_search : IsFirst digests clone.first := by
  rw [search_eq coherent] at member
  obtain ⟨first, isListed, rfl⟩ := List.mem_map.mp member
  exact is_first_of_mem_firsts coherent isListed

theorem repeats_of_mem_search {copy : Span} (listed : copy ∈ clone.repeats) :
    Repeats digests thresholds clone.first copy := by
  have sound := sound_of_mem_search coherent member
  have firstListed : clone.first ∈ clone.spans := List.mem_cons_self
  have copyListed : copy ∈ clone.spans := List.mem_cons_of_mem _ listed
  exact ⟨is_first_of_mem_search coherent member, sound.windows _ copyListed,
    (sound.same _ copyListed).symm, (List.pairwise_cons.mp sound.apart).1 copy listed,
    (large_iff _).mpr ⟨sound.statements _ firstListed, sound.tokens _ firstListed⟩⟩

end Repeats

section Thresholds

variable {hash : RunHash} {digests : List UnitDigest} {loose strict : Thresholds}
  (statements : loose.blockStatements ≤ strict.blockStatements)
  (tokens : loose.blockTokens ≤ strict.blockTokens)

include statements tokens

theorem large_of_stricter {span : Span} (large : isLargeEnough digests strict span = true) :
    isLargeEnough digests loose span = true := by
  rw [large_iff] at large ⊢
  omega

theorem repeats_of_stricter {first other : Span} (repeats : Repeats digests strict first other) :
    Repeats digests loose first other :=
  { repeats with large := large_of_stricter statements tokens repeats.large }

theorem repeated_run_of_stricter (repeated : RepeatedRun strict digests) :
    RepeatedRun loose digests := by
  obtain ⟨left, right, leftWindow, rightWindow, apart, same, leftLarge, rightLarge⟩ := repeated
  refine ⟨left, right, leftWindow, rightWindow, apart, same, ?_, ?_⟩
  · omega
  · omega

/-- A clone with a copy in another routine than its first lies in a clone of the looser ones. -/
theorem exists_wider_clone (coherent : Coherent hash digests) {clone : Clone}
    (member : clone ∈ search hash digests strict) {copy : Span} (listed : copy ∈ clone.repeats)
    (elsewhere : clone.first.sameRoutine copy = false) :
    ∃ wider ∈ search hash digests loose, clone.first.Within wider.first := by
  have repeats := repeats_of_mem_search coherent member listed
  obtain ⟨wider, found, inside, _⟩ := exists_clone_containing coherent
    (repeats_of_stricter statements tokens repeats) elsewhere
  exact ⟨wider, found, inside⟩

end Thresholds

/-- Lower thresholds lose nothing: a clone of the stricter ones whose spans lie in different
routines has its first span inside the first span of a clone of the looser ones, in the same
routine. If the looser ones find no clone, the stricter ones find none. -/
theorem looser_thresholds_keep_clones {hash : RunHash} {digests : List UnitDigest}
    (coherent : Coherent hash digests) {loose strict : Thresholds}
    (statements : loose.blockStatements ≤ strict.blockStatements)
    (tokens : loose.blockTokens ≤ strict.blockTokens) :
    (∀ clone ∈ search hash digests strict,
      (clone.spans.Pairwise fun left right => left.sameRoutine right = false) →
        ∃ wider ∈ search hash digests loose,
          wider.first.sameRoutine clone.first = true ∧ clone.first.Within wider.first) ∧
      (search hash digests loose = [] → search hash digests strict = []) := by
  constructor
  · intro clone member spreadOut
    have several := (sound_of_mem_search coherent member).several
    rw [Clone.spans, List.length_cons] at several
    obtain ⟨copy, listed⟩ := List.exists_mem_of_length_pos (l := clone.repeats) (by omega)
    have elsewhere := (List.pairwise_cons.mp spreadOut).1 copy listed
    obtain ⟨wider, found, inside⟩ :=
      exists_wider_clone statements tokens coherent member listed elsewhere
    refine ⟨wider, found, ?_, inside⟩
    rw [Span.same_routine_iff]
    exact ⟨inside.1.symm, inside.2.1.symm⟩
  · intro empty
    by_contra found
    have repeated := (search_ne_nil_iff coherent).mp found
    exact (search_ne_nil_iff coherent).mpr
      (repeated_run_of_stricter statements tokens repeated) empty

/-- The shorter clone of the sample is in three routines, and is found under no thresholds as
well. -/
theorem looser_thresholds_keep_clones_sample : ∃ clone,
    clone ∈ search plainHash sampleDigests sampleThresholds ∧
      (clone.spans.Pairwise fun left right => left.sameRoutine right = false) ∧
      ∃ wider ∈ search plainHash sampleDigests ⟨0, 0, 0⟩, clone.first.Within wider.first := by
  have coherent : Coherent plainHash sampleDigests := by decide
  have listed : [⟨0, 0, 0, 2⟩, ⟨0, 1, 0, 2⟩, ⟨1, 0, 0, 2⟩] ∈
      (search plainHash sampleDigests sampleThresholds).map Clone.spans := by
    simp [sample_search]
  obtain ⟨clone, member, spans⟩ := List.mem_map.mp listed
  have spreadOut : clone.spans.Pairwise fun left right => left.sameRoutine right = false := by
    rw [spans]
    decide
  have kept := looser_thresholds_keep_clones coherent
    (show (⟨0, 0, 0⟩ : Thresholds).blockStatements ≤ sampleThresholds.blockStatements by decide)
    (show (⟨0, 0, 0⟩ : Thresholds).blockTokens ≤ sampleThresholds.blockTokens by decide)
  obtain ⟨wider, found, _, inside⟩ := kept.1 clone member spreadOut
  exact ⟨clone, member, spreadOut, wider, found, inside⟩

end Clone
end CodeAudit
