import CodeAudit.Proofs.Clone.FirstFit
import CodeAudit.Proofs.Clone.SortingOrder
import CodeAudit.Proofs.Clone.Window

/-!
The groups that are kept when nested ones are dropped. A nested group covers no more lines than the
group around it, and as many only if both list the same locations. Groups are visited from the most
lines to the fewest, so none of those that are kept is nested in another, but for one that lists
the same locations, and dropping nested groups once more drops nothing.
-/

namespace CodeAudit
namespace DuplicateGroup

def coveredBy (locations : List Location) : Nat :=
  (locations.map fun location => location.endLine + 1 - location.startLine).foldr Nat.add 0

theorem covered_by_cons (location : Location) (locations : List Location) :
    coveredBy (location :: locations) =
      (location.endLine + 1 - location.startLine) + coveredBy locations :=
  rfl

theorem covered_lines_eq (group : DuplicateGroup) :
    group.coveredLines = coveredBy group.locations := by
  rw [coveredLines, coveredBy, List.foldr_map]
  rfl

theorem covered_by_le_of_subperm {part whole : List Location} (inside : part.Subperm whole) :
    coveredBy part ≤ coveredBy whole := by
  obtain ⟨rearranged, perm, sublist⟩ := inside
  have commutes : LeftCommutative Nat.add := ⟨Nat.add_left_comm⟩
  have same : coveredBy rearranged = coveredBy part := (perm.map _).foldr_eq 0
  rw [← same]
  exact foldr_add_le_of_sublist (sublist.map _)

theorem covered_by_le_of_contained {inner outer : List Location}
    (pairs : List.Forall₂ (fun location given => given.contains location = true) inner outer) :
    coveredBy inner ≤ coveredBy outer := by
  induction pairs with
  | nil => exact Nat.le_refl _
  | cons contains _ ih =>
      rw [Location.contains_iff] at contains
      rw [covered_by_cons, covered_by_cons]
      omega

theorem covered_lines_le_of_nested_in {group outer : DuplicateGroup}
    (nested : group.nestedIn outer = true) : group.coveredLines ≤ outer.coveredLines := by
  rw [nestedIn, Bool.and_eq_true] at nested
  obtain ⟨chosen, pairs, part⟩ := chosen_of_assignable nested.2
  rw [covered_lines_eq, covered_lines_eq]
  exact Nat.le_trans (covered_by_le_of_contained pairs) (covered_by_le_of_subperm part)

/-- Locations that lie in others and cover as many lines are those others. -/
theorem eq_of_contained_of_covered {inner outer : List Location}
    (pairs : List.Forall₂ (fun location given => given.contains location = true) inner outer)
    (lines : ∀ location ∈ inner, location.startLine ≤ location.endLine)
    (covered : coveredBy outer ≤ coveredBy inner) : inner = outer := by
  induction pairs with
  | nil => rfl
  | @cons location given others rest contains pairs ih =>
      have fewer := covered_by_le_of_contained pairs
      have proper := lines location (by simp)
      rw [Location.contains_iff] at contains
      rw [covered_by_cons, covered_by_cons] at covered
      have same : location = given := by
        obtain ⟨path, startLine, endLine⟩ := location
        obtain ⟨givenPath, givenStart, givenEnd⟩ := given
        simp only at contains proper covered
        simp only [Location.mk.injEq]
        exact ⟨contains.1.symm, by omega, by omega⟩
      have tails : others = rest := by
        apply ih
        · intro other member
          exact lines other (by simp [member])
        · omega
      rw [same, tails]

/-- A part of some locations that covers as many lines is all of them. -/
theorem perm_of_subperm_of_covered {part whole : List Location} (inside : part.Subperm whole)
    (lines : ∀ location ∈ whole, location.startLine ≤ location.endLine)
    (covered : coveredBy whole ≤ coveredBy part) : part.Perm whole := by
  apply inside.perm_of_length_le
  by_contra shorter
  obtain ⟨extra, more⟩ := inside.exists_of_length_lt (Nat.lt_of_not_le shorter)
  have proper := lines extra (more.subset (by simp))
  have larger := covered_by_le_of_subperm more
  rw [covered_by_cons] at larger
  omega

/-- A group is located somewhere, and each location has a line. -/
structure Proper (group : DuplicateGroup) : Prop where
  located : group.locations ≠ []
  lines : ∀ location ∈ group.locations, location.startLine ≤ location.endLine

theorem perm_of_nested_in {group outer : DuplicateGroup} (groupProper : group.Proper)
    (outerProper : outer.Proper) (nested : group.nestedIn outer = true)
    (covered : outer.coveredLines ≤ group.coveredLines) :
    group.locations.Perm outer.locations := by
  rw [nestedIn, Bool.and_eq_true] at nested
  obtain ⟨chosen, pairs, part⟩ := chosen_of_assignable nested.2
  rw [covered_lines_eq, covered_lines_eq] at covered
  have inChosen := covered_by_le_of_contained pairs
  have chosenInOuter := covered_by_le_of_subperm part
  have same : group.locations = chosen := by
    apply eq_of_contained_of_covered pairs groupProper.lines
    omega
  rw [same]
  apply perm_of_subperm_of_covered part outerProper.lines
  omega

def NestedInNoneBefore (groups : List DuplicateGroup) : Prop :=
  groups.Pairwise fun earlier later => later.nestedIn earlier = false

theorem nested_in_none_before_keep {kept : List DuplicateGroup} (apart : NestedInNoneBefore kept)
    (group : DuplicateGroup) : NestedInNoneBefore (keepUnlessNested kept group) := by
  rw [keepUnlessNested]
  split
  · exact apart
  · next free =>
      apply List.pairwise_append.mpr
      refine ⟨apart, List.pairwise_singleton _ _, ?_⟩
      intro outer isKept other isGroup
      rw [List.mem_singleton.mp isGroup]
      by_contra nested
      exact free (List.any_eq_true.mpr ⟨outer, isKept, by simpa using nested⟩)

theorem nested_in_none_before_foldl_keep (groups : List DuplicateGroup) {kept : List DuplicateGroup}
    (apart : NestedInNoneBefore kept) :
    NestedInNoneBefore (groups.foldl keepUnlessNested kept) := by
  induction groups generalizing kept with
  | nil => exact apart
  | cons group rest ih =>
      rw [List.foldl_cons]
      exact ih (nested_in_none_before_keep apart group)

theorem foldl_keep_eq_append {kept groups : List DuplicateGroup}
    (apart : NestedInNoneBefore (kept ++ groups)) :
    groups.foldl keepUnlessNested kept = kept ++ groups := by
  induction groups generalizing kept with
  | nil => simp
  | cons group rest ih =>
      have free : ¬ kept.any group.nestedIn = true := by
        intro nested
        obtain ⟨outer, isKept, inside⟩ := List.any_eq_true.mp nested
        have outside := (List.pairwise_append.mp apart).2.2 outer isKept group (by simp)
        rw [outside] at inside
        cases inside
      rw [List.foldl_cons, keepUnlessNested, if_neg free, ih]
      · simp
      · simpa using apart

theorem drop_nested_larger_first (groups : List DuplicateGroup) :
    (dropNested groups).Pairwise fun left right => largerFirst left right = true := by
  obtain ⟨chosen, part, result⟩ := foldl_keep_sublist (groups.mergeSort largerFirst) []
  rw [dropNested, result, List.nil_append]
  exact (merge_sort_sorted larger_first_order groups).sublist part

theorem covered_lines_le_of_larger_first {left right : DuplicateGroup}
    (before : largerFirst left right = true) : right.coveredLines ≤ left.coveredLines := by
  simp only [largerFirst, Bool.or_eq_true, decide_eq_true_eq, Bool.and_eq_true,
    beq_iff_eq] at before
  omega

/-- Of the groups that are kept one is nested in another only if both list the same locations, and
all of them are kept when nested groups are dropped again. -/
theorem kept_groups_irredundant (groups : List DuplicateGroup)
    (proper : ∀ group ∈ groups, group.Proper) :
    let kept := dropNested groups
    (∀ inner outer : Fin kept.length, inner ≠ outer →
      (kept.get inner).nestedIn (kept.get outer) = true →
        (kept.get inner).locations.Perm (kept.get outer).locations) ∧
      dropNested kept = kept := by
  intro kept
  have apart : NestedInNoneBefore kept := nested_in_none_before_foldl_keep _ List.Pairwise.nil
  have ordered := drop_nested_larger_first groups
  have keptProper : ∀ place : Fin kept.length, (kept.get place).Proper := by
    intro place
    exact proper _ ((drop_nested_subperm groups).subset (List.get_mem kept place))
  constructor
  · intro inner outer different nested
    rcases Nat.lt_or_gt_of_ne (Fin.val_ne_of_ne different) with before | behind
    · -- The outer group comes later, and so it covers no more lines.
      have covered := covered_lines_le_of_larger_first
        (List.pairwise_iff_get.mp ordered inner outer before)
      exact perm_of_nested_in (keptProper inner) (keptProper outer) nested covered
    · have outside := List.pairwise_iff_get.mp apart outer inner behind
      rw [outside] at nested
      cases nested
  · rw [dropNested, List.mergeSort_of_pairwise ordered]
    exact foldl_keep_eq_append apart

theorem drop_nested_reordered :
    dropNested [groupAt [linesAt 1 9, linesAt 3 4], groupAt [linesAt 3 4, linesAt 1 9],
      groupAt [linesAt 2 2, linesAt 3 3]] =
        [groupAt [linesAt 1 9, linesAt 3 4], groupAt [linesAt 3 4, linesAt 1 9]] := by
  rw [dropNested, List.mergeSort_of_pairwise (by decide)]
  rfl

/-- Two groups that list the same locations in different orders are both kept, where a third one is
dropped. The one that is visited later would be nested, but the first fit misses it. -/
theorem kept_groups_irredundant_reordered :
    let inner := groupAt [linesAt 1 9, linesAt 3 4]
    let outer := groupAt [linesAt 3 4, linesAt 1 9]
    let dropped := groupAt [linesAt 2 2, linesAt 3 3]
    dropNested [inner, outer, dropped] = [inner, outer] ∧ inner.nestedIn outer = true ∧
      outer.nestedIn inner = false ∧ inner.locations.Perm outer.locations ∧
      dropNested [inner, outer] = [inner, outer] := by
  intro inner outer dropped
  have proper : ∀ group ∈ [inner, outer, dropped], group.Proper := by
    intro group member
    simp only [List.mem_cons, List.not_mem_nil, or_false] at member
    rcases member with rfl | rfl | rfl <;> exact ⟨by decide, by decide⟩
  have nested : inner.nestedIn outer = true := by decide
  have kept := kept_groups_irredundant [inner, outer, dropped] proper
  simp only [inner, outer, dropped] at kept
  rw [drop_nested_reordered] at kept
  exact ⟨drop_nested_reordered, nested, by decide, kept.1 0 1 (by decide) nested, kept.2⟩

end DuplicateGroup
end CodeAudit
