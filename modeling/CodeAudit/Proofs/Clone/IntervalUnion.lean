import CodeAudit.Clone.Interval
import CodeAudit.Proofs.OrderedList
import CodeAudit.Proofs.StableSort

/-!
Joined intervals: each is a union of given ones without a gap, no two of them touch, and each given
interval lies in one of them. A given interval that touches a joined one is therefore part of it.
Intervals with gaps between them are known by the positions they cover, which makes the joined ones
the canonical form of a union.
-/

namespace CodeAudit

namespace Interval

/-- The interval is covered by given ones inside it, of which one begins and one ends with it. -/
structure IsUnionOf (given : List (Nat × Nat)) (interval : Nat × Nat) : Prop where
  opens : ∃ piece ∈ given, piece.1 = interval.1 ∧ piece.2 ≤ interval.2
  closes : ∃ piece ∈ given, piece.2 = interval.2 ∧ interval.1 ≤ piece.1
  filled : ∀ position, interval.1 ≤ position → position < interval.2 →
    ∃ piece ∈ given, piece.1 ≤ position ∧ position < piece.2

theorem is_union_of_of_mem {given : List (Nat × Nat)} {piece : Nat × Nat} (member : piece ∈ given) :
    IsUnionOf given piece where
  opens := ⟨piece, member, rfl, Nat.le_refl _⟩
  closes := ⟨piece, member, rfl, Nat.le_refl _⟩
  filled _ lower upper := ⟨piece, member, lower, upper⟩

/-- One step of the join: an interval that begins inside or at the end is taken in. -/
theorem is_union_of_extend {given : List (Nat × Nat)} {start stop : Nat} {next : Nat × Nat}
    (union : IsUnionOf given (start, stop)) (member : next ∈ given) (after : start ≤ next.1)
    (touches : next.1 ≤ stop) : IsUnionOf given (start, max stop next.2) where
  opens := by
    obtain ⟨piece, inside, begins, ends⟩ := union.opens
    exact ⟨piece, inside, begins, Nat.le_trans ends (Nat.le_max_left _ _)⟩
  closes := by
    rcases Nat.le_total stop next.2 with longer | shorter
    · exact ⟨next, member, (Nat.max_eq_right longer).symm, after⟩
    · obtain ⟨piece, inside, ends, begins⟩ := union.closes
      exact ⟨piece, inside, ends.trans (Nat.max_eq_left shorter).symm, begins⟩
  filled := by
    intro position lower upper
    by_cases early : position < stop
    · exact union.filled position lower early
    · refine ⟨next, member, ?_, ?_⟩ <;> simp only at upper ⊢ <;> omega

theorem absorb_is_union_of {given : List (Nat × Nat)} (rest : List (Nat × Nat)) (start stop : Nat)
    (union : IsUnionOf given (start, stop)) (known : ∀ next ∈ rest, next ∈ given)
    (after : ∀ next ∈ rest, start ≤ next.1)
    (ordered : rest.Pairwise fun left right => left.1 ≤ right.1) :
    ∀ joined ∈ absorb start stop rest, IsUnionOf given joined := by
  induction rest generalizing start stop with
  | nil =>
      intro joined member
      rw [absorb, List.mem_singleton] at member
      exact member ▸ union
  | cons next rest ih =>
      have parts := List.pairwise_cons.mp ordered
      have knownRest : ∀ later ∈ rest, later ∈ given :=
        fun later member => known later (List.mem_cons_of_mem _ member)
      intro joined member
      simp only [absorb] at member
      split at member
      · rename_i touches
        refine ih start (max stop next.2) ?_ knownRest ?_ parts.2 joined member
        · exact is_union_of_extend union (known next (by simp)) (after next (by simp)) touches
        · exact fun later member => after later (List.mem_cons_of_mem _ member)
      · rcases List.mem_cons.mp member with same | later
        · exact same ▸ union
        · exact ih next.1 next.2 (is_union_of_of_mem (known next (by simp))) knownRest parts.1
            parts.2 joined later

theorem absorb_starts_after (rest : List (Nat × Nat)) (start stop : Nat)
    (after : ∀ next ∈ rest, start ≤ next.1)
    (ordered : rest.Pairwise fun left right => left.1 ≤ right.1) :
    ∀ joined ∈ absorb start stop rest, start ≤ joined.1 := by
  induction rest generalizing start stop with
  | nil => simp [absorb]
  | cons next rest ih =>
      have parts := List.pairwise_cons.mp ordered
      intro joined member
      simp only [absorb] at member
      split at member
      · exact ih start _ (fun later member => after later (by simp [member])) parts.2 joined member
      · rcases List.mem_cons.mp member with same | later
        · simp [same]
        · exact Nat.le_trans (after next (by simp)) (ih next.1 next.2 parts.1 parts.2 joined later)

theorem absorb_gaps (rest : List (Nat × Nat)) (start stop : Nat)
    (ordered : rest.Pairwise fun left right => left.1 ≤ right.1) :
    (absorb start stop rest).Pairwise fun left right => left.2 < right.1 := by
  induction rest generalizing start stop with
  | nil => simp [absorb]
  | cons next rest ih =>
      have parts := List.pairwise_cons.mp ordered
      simp only [absorb]
      split
      · exact ih start _ parts.2
      · rename_i gap
        refine List.pairwise_cons.mpr ⟨fun joined member => ?_, ih next.1 next.2 parts.2⟩
        have later := absorb_starts_after rest next.1 next.2 parts.1 parts.2 joined member
        simp only
        omega

theorem absorb_covers (rest : List (Nat × Nat)) (start stop : Nat)
    (after : ∀ next ∈ rest, start ≤ next.1)
    (ordered : rest.Pairwise fun left right => left.1 ≤ right.1) :
    ∀ piece ∈ (start, stop) :: rest,
      ∃ joined ∈ absorb start stop rest, joined.1 ≤ piece.1 ∧ piece.2 ≤ joined.2 := by
  induction rest generalizing start stop with
  | nil => simp [absorb]
  | cons next rest ih =>
      have parts := List.pairwise_cons.mp ordered
      have afterRest : ∀ later ∈ rest, start ≤ later.1 :=
        fun later member => after later (List.mem_cons_of_mem _ member)
      intro piece member
      simp only [absorb]
      split
      · have covers := ih start (max stop next.2) afterRest parts.2
        have whole := covers (start, max stop next.2) (by simp)
        -- The current interval and the one taken in lie in what the two make together.
        rcases List.mem_cons.mp member with same | member
        · obtain ⟨joined, inside, begins, ends⟩ := whole
          exact ⟨joined, inside, by simpa [same] using begins,
            by simpa [same] using Nat.le_trans (Nat.le_max_left stop next.2) ends⟩
        · rcases List.mem_cons.mp member with same | later
          · obtain ⟨joined, inside, begins, ends⟩ := whole
            exact ⟨joined, inside, same ▸ Nat.le_trans begins (after next (by simp)),
              same ▸ Nat.le_trans (Nat.le_max_right stop next.2) ends⟩
          · exact covers piece (List.mem_cons_of_mem _ later)
      · rcases List.mem_cons.mp member with same | later
        · exact ⟨(start, stop), by simp, by simp [same]⟩
        · obtain ⟨joined, inside, bounds⟩ := ih next.1 next.2 parts.1 parts.2 piece later
          exact ⟨joined, List.mem_cons_of_mem _ inside, bounds⟩

theorem le_iff (left right : Nat × Nat) :
    le left right = true ↔ left.1 < right.1 ∨ left.1 = right.1 ∧ left.2 ≤ right.2 := by
  simp [le]

theorem sorted_starts (intervals : List (Nat × Nat)) :
    (intervals.mergeSort le).Pairwise fun left right => left.1 ≤ right.1 := by
  have transitive : ∀ left middle right, le left middle = true → le middle right = true →
      le left right = true := by
    intro left middle right
    rw [le_iff, le_iff, le_iff]
    omega
  have total : ∀ left right, (le left right || le right left) = true := by
    intro left right
    rw [Bool.or_eq_true, le_iff, le_iff]
    omega
  refine (List.pairwise_mergeSort transitive total intervals).imp fun {left right} ordered => ?_
  rw [le_iff] at ordered
  omega

theorem merge_is_union_of (intervals : List (Nat × Nat)) :
    ∀ joined ∈ merge intervals, IsUnionOf intervals joined := by
  have sorted := sorted_starts intervals
  have same : ∀ piece, piece ∈ intervals.mergeSort le → piece ∈ intervals :=
    fun piece => List.mem_mergeSort.mp
  intro joined member
  rw [merge] at member
  cases pieces : intervals.mergeSort le with
  | nil => simp [pieces, mergeOrdered] at member
  | cons first rest =>
      rw [pieces] at sorted same member
      have parts := List.pairwise_cons.mp sorted
      exact absorb_is_union_of rest first.1 first.2 (is_union_of_of_mem (same first (by simp)))
        (fun next later => same next (List.mem_cons_of_mem _ later)) parts.1 parts.2 joined member

theorem merge_gaps (intervals : List (Nat × Nat)) :
    (merge intervals).Pairwise fun left right => left.2 < right.1 := by
  have sorted := sorted_starts intervals
  rw [merge]
  cases pieces : intervals.mergeSort le with
  | nil => exact List.Pairwise.nil
  | cons first rest =>
      rw [pieces] at sorted
      exact absorb_gaps rest first.1 first.2 (List.pairwise_cons.mp sorted).2

theorem merge_covers {intervals : List (Nat × Nat)} {piece : Nat × Nat}
    (member : piece ∈ intervals) :
    ∃ joined ∈ merge intervals, joined.1 ≤ piece.1 ∧ piece.2 ≤ joined.2 := by
  have sorted := sorted_starts intervals
  have listed : piece ∈ intervals.mergeSort le := List.mem_mergeSort.mpr member
  rw [merge]
  cases pieces : intervals.mergeSort le with
  | nil => simp [pieces] at listed
  | cons first rest =>
      rw [pieces] at sorted listed
      have parts := List.pairwise_cons.mp sorted
      exact absorb_covers rest first.1 first.2 parts.1 parts.2 piece listed

theorem merge_contains_touching {intervals : List (Nat × Nat)} {joined piece : Nat × Nat}
    (inJoined : joined ∈ merge intervals) (inGiven : piece ∈ intervals)
    (startsIn : piece.1 ≤ joined.2) (stopsIn : joined.1 ≤ piece.2) :
    joined.1 ≤ piece.1 ∧ piece.2 ≤ joined.2 := by
  obtain ⟨cover, inCover, begins, ends⟩ := merge_covers inGiven
  rcases related_of_mem_pairwise (merge_gaps intervals) inJoined inCover with
    same | left | right
  · exact same ▸ ⟨begins, ends⟩
  · omega
  · omega

/-- Intervals that are not empty, in order, and with a gap between any two. -/
structure Separate (intervals : List (Nat × Nat)) : Prop where
  nonempty : ∀ interval ∈ intervals, interval.1 < interval.2
  gaps : intervals.Pairwise fun left right => left.2 < right.1

def Covered (intervals : List (Nat × Nat)) (position : Int) : Prop :=
  ∃ interval ∈ intervals, interval.1 ≤ position ∧ position < interval.2

section Canonical

variable {left right : List (Nat × Nat)}

theorem Separate.increasing (separate : Separate left) :
    left.Pairwise fun first second => first.1 < second.1 := by
  apply separate.gaps.imp_of_mem
  intro first second inFirst _ gap
  have nonempty := separate.nonempty first inFirst
  omega

/-- A range without a hole lies in one interval: it cannot go over a gap. -/
theorem Separate.exists_around (separate : Separate left) {start stop : Nat} (more : start < stop)
    (filled : ∀ position : Int, start ≤ position → position < stop → Covered left position) :
    ∃ interval ∈ left, interval.1 ≤ start ∧ stop ≤ interval.2 := by
  obtain ⟨interval, inInterval, begins, ends⟩ := filled start (by omega) (by omega)
  refine ⟨interval, inInterval, by omega, ?_⟩
  by_contra shorter
  -- The position at the end of the interval would have to lie in another one.
  obtain ⟨other, inOther, starts, reaches⟩ := filled interval.2 (by omega) (by omega)
  rcases related_of_mem_pairwise separate.gaps inInterval inOther with same | before | after
  · subst same
    omega
  · omega
  · omega

theorem Separate.mem_of_same_cover (leftSeparate : Separate left) (rightSeparate : Separate right)
    (same : ∀ position, Covered left position ↔ Covered right position) {interval : Nat × Nat}
    (member : interval ∈ left) : interval ∈ right := by
  have nonempty := leftSeparate.nonempty interval member
  obtain ⟨cover, inCover, before, after⟩ := rightSeparate.exists_around nonempty
    fun position lower upper => (same position).mp ⟨interval, member, lower, upper⟩
  obtain ⟨back, inBack, beforeCover, afterCover⟩ := leftSeparate.exists_around
    (rightSeparate.nonempty cover inCover)
    fun position lower upper => (same position).mpr ⟨cover, inCover, lower, upper⟩
  have sameBack : interval = back := by
    rcases related_of_mem_pairwise leftSeparate.gaps member inBack with equal | earlier | later
    · exact equal
    · omega
    · omega
  subst sameBack
  have sameCover : interval = cover := Prod.ext (by omega) (by omega)
  exact sameCover ▸ inCover

/-- Separate intervals are known by the positions in them. -/
theorem Separate.eq_of_same_cover (leftSeparate : Separate left) (rightSeparate : Separate right)
    (same : ∀ position, Covered left position ↔ Covered right position) : left = right := by
  apply eq_of_mem_iff_of_ordered _ leftSeparate.increasing rightSeparate.increasing
  · intro interval
    constructor
    · exact leftSeparate.mem_of_same_cover rightSeparate same
    · exact rightSeparate.mem_of_same_cover leftSeparate fun position => (same position).symm
  · intro first second
    exact Nat.lt_asymm

end Canonical

section Merged

theorem covered_merge_iff (given : List (Nat × Nat)) (position : Int) :
    Covered (merge given) position ↔ Covered given position := by
  constructor
  · rintro ⟨joined, inJoined, lower, upper⟩
    obtain ⟨piece, inPiece, begins, ends⟩ :=
      (merge_is_union_of given joined inJoined).filled position.toNat (by omega) (by omega)
    exact ⟨piece, inPiece, by omega, by omega⟩
  · rintro ⟨piece, inPiece, lower, upper⟩
    obtain ⟨joined, inJoined, begins, ends⟩ := merge_covers inPiece
    exact ⟨joined, inJoined, by omega, by omega⟩

variable {given others : List (Nat × Nat)} (proper : ∀ piece ∈ given, piece.1 < piece.2)

include proper

theorem merge_separate : Separate (merge given) where
  nonempty joined member := by
    obtain ⟨piece, inPiece, begins, ends⟩ := (merge_is_union_of given joined member).opens
    have nonempty := proper piece inPiece
    omega
  gaps := merge_gaps given

/-- What is joined depends on nothing but the positions covered. -/
theorem merge_eq_iff (othersProper : ∀ piece ∈ others, piece.1 < piece.2) :
    merge given = merge others ↔ ∀ position, Covered given position ↔ Covered others position := by
  constructor
  · intro same position
    rw [← covered_merge_iff given, same, covered_merge_iff]
  · intro same
    apply (merge_separate proper).eq_of_same_cover (merge_separate othersProper)
    intro position
    rw [covered_merge_iff, covered_merge_iff, same position]

theorem merge_eq_of_same (same : ∀ piece, piece ∈ given ↔ piece ∈ others) :
    merge given = merge others := by
  apply (merge_eq_iff proper fun piece inOthers => proper piece ((same piece).mpr inOthers)).mpr
  intro position
  simp only [Covered, same]

end Merged

/-- Joining gives the canonical form of a union of intervals: they are in order, none is empty or
touches the next one, and their starts and ends were given. The order of the given intervals and
repetitions do not matter, and two lists have the same form exactly where they cover the same. -/
theorem merge_canonical {given : List (Nat × Nat)}
    (proper : ∀ piece ∈ given, piece.1 < piece.2) :
    ((merge given).Pairwise fun left right => left.1 < right.1) ∧
      (∀ joined ∈ merge given, joined.1 < joined.2) ∧
      ((merge given).Pairwise fun left right => left.2 < right.1) ∧
      (∀ position, Covered (merge given) position ↔ Covered given position) ∧
      (∀ joined ∈ merge given,
        (∃ piece ∈ given, piece.1 = joined.1) ∧ ∃ piece ∈ given, piece.2 = joined.2) ∧
      (∀ others, (∀ piece, piece ∈ given ↔ piece ∈ others) → merge given = merge others) ∧
      ∀ others, (∀ piece ∈ others, piece.1 < piece.2) →
        (merge given = merge others ↔
          ∀ position, Covered given position ↔ Covered others position) := by
  have separate := merge_separate proper
  refine ⟨separate.increasing, separate.nonempty, separate.gaps, covered_merge_iff given,
    ?_, ?_, ?_⟩
  · intro joined member
    have union := merge_is_union_of given joined member
    obtain ⟨opening, inOpening, begins, _⟩ := union.opens
    obtain ⟨closing, inClosing, ends, _⟩ := union.closes
    exact ⟨⟨opening, inOpening, begins⟩, closing, inClosing, ends⟩
  · intro others
    exact merge_eq_of_same proper
  · intro others
    exact merge_eq_iff proper

/-- Intervals that contain, touch and repeat one another, and one that stands apart. -/
def scattered : List (Nat × Nat) :=
  [(4, 6), (0, 2), (1, 3), (8, 9), (3, 4), (1, 2), (4, 6)]

theorem merge_canonical_scattered :
    (∀ piece ∈ scattered, piece.1 < piece.2) ∧ merge scattered = [(0, 6), (8, 9)] := by
  have proper : ∀ piece ∈ scattered, piece.1 < piece.2 := by decide
  have joinedProper : ∀ piece ∈ [(0, 6), (8, 9)], piece.1 < piece.2 := by decide
  obtain ⟨_, _, _, _, _, _, canonical⟩ := merge_canonical proper
  have sameCover : merge scattered = merge [(0, 6), (8, 9)] := by
    apply (canonical _ joinedProper).mpr
    intro position
    simp only [Covered, scattered, List.exists_mem_cons_iff, List.not_mem_nil, false_and,
      exists_false, or_false]
    omega
  have unchanged : merge [(0, 6), (8, 9)] = [(0, 6), (8, 9)] :=
    (merge_separate joinedProper).eq_of_same_cover ⟨joinedProper, by decide⟩ (covered_merge_iff _)
  exact ⟨proper, sameCover.trans unchanged⟩

end Interval
end CodeAudit
