import CodeAudit.Proofs.Clone.Guarantees
import CodeAudit.Proofs.Clone.Nesting
import CodeAudit.Proofs.Clone.Rearrangement
import CodeAudit.Proofs.Clone.WholeUnits
import Mathlib.Data.List.Nodup

/-!
From clones to reported groups. A clone is left out of the report only where a group of whole units
says the same, or where a reported group of blocks has all its locations inside its own. A report
is empty exactly where the units have nothing in common that is large enough.
-/

namespace CodeAudit

/-- Two windows apart from each other have the same content and are large enough. -/
def RepeatedRun (thresholds : Thresholds) (digests : List UnitDigest) : Prop :=
  ∃ left right, IsWindow digests left ∧ IsWindow digests right ∧
    left.overlaps right = false ∧ spanHashes digests left = spanHashes digests right ∧
    (max 1 thresholds.blockStatements ≤ left.length ∧
      thresholds.blockTokens ≤ spanTokens digests left) ∧
    max 1 thresholds.blockStatements ≤ right.length ∧
      thresholds.blockTokens ≤ spanTokens digests right

theorem repeated_run_of_perm {thresholds : Thresholds} {digests rearranged : List UnitDigest}
    (perm : digests.Perm rearranged) (repeated : RepeatedRun thresholds digests) :
    RepeatedRun thresholds rearranged := by
  obtain ⟨place, injective, placed⟩ := exists_place_of_perm perm
  obtain ⟨left, right, leftWindow, rightWindow, apart, same, leftLarge, rightLarge⟩ := repeated
  refine ⟨left.moved place, right.moved place, is_window_moved placed leftWindow,
    is_window_moved placed rightWindow, ?_, ?_, ?_, ?_⟩
  · rw [overlaps_moved injective, apart]
  · rw [span_hashes_moved placed, span_hashes_moved placed, same]
  · rw [span_tokens_moved placed]
    exact leftLarge
  · rw [span_tokens_moved placed]
    exact rightLarge

theorem duplicate_units_of_perm {thresholds : Thresholds} {digests rearranged : List UnitDigest}
    (perm : digests.Perm rearranged) (duplicate : DuplicateUnits thresholds digests) :
    DuplicateUnits thresholds rearranged := by
  obtain ⟨place, injective, placed⟩ := exists_place_of_perm perm
  obtain ⟨left, right, leftDigest, rightDigest, different, inLeft, inRight, facts⟩ := duplicate
  exact ⟨place left, place right, leftDigest, rightDigest, injective.ne different,
    (placed left).trans inLeft, (placed right).trans inRight, facts⟩

theorem exists_repeats_of_before {hash : RunHash} {thresholds : Thresholds}
    {digests : List UnitDigest} (coherent : Coherent hash digests) {left right : Span}
    (leftWindow : IsWindow digests left) (rightWindow : IsWindow digests right)
    (before : left.Before right) (apart : left.overlaps right = false)
    (same : spanHashes digests left = spanHashes digests right)
    (large : isLargeEnough digests thresholds right = true) :
    ∃ first other, Repeats digests thresholds first other := by
  have precedes := precedes_of_before
    (length_eq_of_same_content leftWindow rightWindow same) leftWindow.1 rightWindow.1 before
  obtain ⟨first, repeats⟩ := Clone.exists_first_repeated coherent leftWindow rightWindow
    precedes apart same large
  exact ⟨first, right, repeats⟩

/-- The search finds something exactly where a large run is repeated. -/
theorem search_ne_nil_iff {hash : RunHash} {thresholds : Thresholds} {digests : List UnitDigest}
    (coherent : Coherent hash digests) :
    Clone.search hash digests thresholds ≠ [] ↔ RepeatedRun thresholds digests := by
  constructor
  · intro nonempty
    obtain ⟨clone, member⟩ := List.exists_mem_of_ne_nil _ nonempty
    have sound := Clone.sound_of_mem_search coherent member
    have several := sound.several
    rw [Clone.spans, List.length_cons] at several
    have others : clone.repeats ≠ [] := List.ne_nil_of_length_pos (by omega)
    obtain ⟨other, inRepeats⟩ := List.exists_mem_of_ne_nil _ others
    have firstListed : clone.first ∈ clone.spans := List.mem_cons_self
    have otherListed : other ∈ clone.spans := List.mem_cons_of_mem _ inRepeats
    exact ⟨clone.first, other, sound.windows _ firstListed, sound.windows _ otherListed,
      (List.pairwise_cons.mp sound.apart).1 other inRepeats, (sound.same _ otherListed).symm,
      ⟨sound.statements _ firstListed, sound.tokens _ firstListed⟩,
      sound.statements _ otherListed, sound.tokens _ otherListed⟩
  · rintro ⟨left, right, leftWindow, rightWindow, apart, same, leftLarge, rightLarge⟩
    have repeated : ∃ first other, Repeats digests thresholds first other := by
      rcases Span.before_trichotomy left right with equal | before | after
      · -- A window overlaps itself.
        have proper := leftWindow.1
        rw [Span.apart_iff] at apart
        subst equal
        omega
      · exact exists_repeats_of_before coherent leftWindow rightWindow before apart same
          ((Clone.large_iff right).mpr rightLarge)
      · have apartToo : right.overlaps left = false := by
          rw [Span.apart_iff] at apart ⊢
          omega
        exact exists_repeats_of_before coherent rightWindow leftWindow after apartToo same.symm
          ((Clone.large_iff left).mpr leftLarge)
    obtain ⟨first, other, repeats⟩ := repeated
    obtain ⟨clone, member, _⟩ := Clone.exists_clone_overlapping coherent repeats
    exact List.ne_nil_of_mem member

namespace DuplicationReport

/-- The spans of the clone lie in different units, all of them listed by one reported group. -/
def RestatesUnits (thresholds : Thresholds) (digests : List UnitDigest)
    (report : DuplicationReport) (clone : Clone) : Prop :=
  (clone.spans.map fun span => span.unit).Nodup ∧
    ∃ group ∈ report.groups, ∀ span ∈ clone.spans, ListsUnit thresholds digests group span.unit

def shownClones (hash : RunHash) (thresholds : Thresholds) (digests : List UnitDigest) :
    List Clone :=
  (Clone.search hash digests thresholds).filter fun clone =>
    !restatesWhole (wholeMembers thresholds digests) clone.spans

section Groups

variable {hash : RunHash} {thresholds : Thresholds} {digests : List UnitDigest}

theorem mem_groups {group : DuplicateGroup} :
    group ∈ (ofOrdered hash thresholds digests).groups ↔
      (∃ members ∈ wholeMembers thresholds digests, wholeGroup? digests members = some group) ∨
        group ∈ DuplicateGroup.dropNested
          ((shownClones hash thresholds digests).map (blockGroup digests)) := by
  rw [ofOrdered, List.mem_mergeSort, List.mem_append, List.mem_filterMap]
  rfl

theorem granularity_of_whole_group? {members : List Nat} {group : DuplicateGroup}
    (found : wholeGroup? digests members = some group) : group.granularity = .wholeUnit := by
  obtain ⟨first, _, rfl⟩ := Option.map_eq_some_iff.mp found
  rfl

theorem mem_groups_of_sub_block {group : DuplicateGroup} (isBlock : group.granularity = .subBlock) :
    group ∈ (ofOrdered hash thresholds digests).groups ↔
      group ∈ DuplicateGroup.dropNested
        ((shownClones hash thresholds digests).map (blockGroup digests)) := by
  rw [mem_groups]
  constructor
  · rintro (⟨members, _, found⟩ | isKept)
    · rw [granularity_of_whole_group? found] at isBlock
      cases isBlock
    · exact isKept
  · exact Or.inr

theorem exists_shown_of_mem_drop_nested {group : DuplicateGroup}
    (member : group ∈ DuplicateGroup.dropNested
      ((shownClones hash thresholds digests).map (blockGroup digests))) :
    ∃ clone ∈ shownClones hash thresholds digests, group = blockGroup digests clone := by
  obtain ⟨clone, shown, same⟩ := List.mem_map.mp
    ((DuplicateGroup.drop_nested_subperm _).subset member)
  exact ⟨clone, shown, same.symm⟩

/-- The check made on positions is the one on reported groups. -/
theorem restates_whole_iff {clone : Clone} :
    restatesWhole (wholeMembers thresholds digests) clone.spans = true ↔
      RestatesUnits thresholds digests (ofOrdered hash thresholds digests) clone := by
  have firstListed : clone.first ∈ clone.spans := List.mem_cons_self
  rw [restatesWhole, Bool.and_eq_true, decide_eq_true_eq, and_comm, RestatesUnits]
  refine and_congr_right fun _ => ?_
  simp only [List.any_eq_true, List.all_eq_true, List.contains_iff_mem]
  constructor
  · rintro ⟨members, isWhole, inside⟩
    obtain ⟨group, made, isUnits, isMembers⟩ := whole_group?_of_mem_whole_members isWhole
    refine ⟨group, mem_groups.mpr (Or.inl ⟨members, isWhole, made⟩), fun span listed => ?_⟩
    have member := inside span listed
    rw [isMembers] at member
    obtain ⟨digest, atUnit, samePrint, long⟩ := mem_members_of.mp member
    exact ⟨isUnits, digest, atUnit, samePrint, long,
      unit_location_mem_of_whole_group? made (inside span listed) atUnit⟩
  · rintro ⟨group, inReport, lists⟩
    have isUnits := (lists _ firstListed).1
    rcases mem_groups.mp inReport with ⟨members, isWhole, found⟩ | isKept
    · obtain ⟨same, made, _, isMembers⟩ := whole_group?_of_mem_whole_members isWhole
      rw [found] at made
      cases made
      refine ⟨members, isWhole, fun span listed => ?_⟩
      obtain ⟨_, digest, atUnit, samePrint, long, _⟩ := lists span listed
      rw [isMembers]
      exact mem_members_of.mpr ⟨digest, atUnit, samePrint, long⟩
    · obtain ⟨clone, _, rfl⟩ := exists_shown_of_mem_drop_nested isKept
      cases isUnits

theorem mem_shown_clones {clone : Clone} : clone ∈ shownClones hash thresholds digests ↔
    clone ∈ Clone.search hash digests thresholds ∧
      ¬ RestatesUnits thresholds digests (ofOrdered hash thresholds digests) clone := by
  rw [shownClones, List.mem_filter, ← restates_whole_iff]
  simp

/-- A clone is known by its fingerprint, and so by its group. -/
theorem eq_of_block_group_eq (coherent : Coherent hash digests) {left right : Clone}
    (inLeft : left ∈ Clone.search hash digests thresholds)
    (inRight : right ∈ Clone.search hash digests thresholds)
    (same : blockGroup digests left = blockGroup digests right) : left = right := by
  have samePrint : left.fingerprint = right.fingerprint :=
    congrArg DuplicateGroup.fingerprint same
  rcases related_of_mem_pairwise (Clone.search_ordered coherent) inLeft inRight with
    equal | forward | backward
  · exact equal
  · exact absurd samePrint forward.1
  · exact absurd samePrint.symm backward.1

/-- A group of blocks lists the spans of one clone. -/
theorem exists_clone_of_sub_block (coherent : Coherent hash digests) {group : DuplicateGroup}
    (inReport : group ∈ (ofOrdered hash thresholds digests).groups)
    (isBlock : group.granularity = .subBlock) :
    ∃! clone, clone ∈ Clone.search hash digests thresholds ∧ group = blockGroup digests clone := by
  obtain ⟨clone, shown, same⟩ := exists_shown_of_mem_drop_nested
    ((mem_groups_of_sub_block isBlock).mp inReport)
  have found := (mem_shown_clones.mp shown).1
  refine ⟨clone, ⟨found, same⟩, ?_⟩
  rintro other ⟨otherFound, otherSame⟩
  exact eq_of_block_group_eq coherent otherFound found (otherSame.symm.trans same)

theorem not_reported_of_restates_units (coherent : Coherent hash digests) {clone : Clone}
    (found : clone ∈ Clone.search hash digests thresholds)
    (restates : RestatesUnits thresholds digests (ofOrdered hash thresholds digests) clone) :
    blockGroup digests clone ∉ (ofOrdered hash thresholds digests).groups := by
  intro inReport
  obtain ⟨shown, isShown, same⟩ := exists_shown_of_mem_drop_nested
    ((mem_groups_of_sub_block rfl).mp inReport)
  obtain ⟨shownFound, notRestating⟩ := mem_shown_clones.mp isShown
  exact notRestating (eq_of_block_group_eq coherent found shownFound same ▸ restates)

theorem assigned_of_not_reported {clone : Clone}
    (found : clone ∈ Clone.search hash digests thresholds)
    (notRestating : ¬ RestatesUnits thresholds digests (ofOrdered hash thresholds digests) clone)
    (unreported : blockGroup digests clone ∉ (ofOrdered hash thresholds digests).groups) :
    ∃ group ∈ (ofOrdered hash thresholds digests).groups, group.granularity = .subBlock ∧
      Assigned (clone.spans.map (spanLocation digests)) group.locations := by
  have shown := List.mem_map_of_mem (f := blockGroup digests)
    (mem_shown_clones.mpr ⟨found, notRestating⟩)
  rcases DuplicateGroup.drop_nested_covers shown with isKept | ⟨outer, isKept, nested⟩
  · exact absurd ((mem_groups_of_sub_block rfl).mpr isKept) unreported
  · obtain ⟨other, _, rfl⟩ := exists_shown_of_mem_drop_nested isKept
    exact ⟨_, (mem_groups_of_sub_block rfl).mpr isKept, rfl,
      DuplicateGroup.assigned_of_nested_in nested⟩

theorem sub_blocks_nodup (coherent : Coherent hash digests) :
    ((ofOrdered hash thresholds digests).groups.filter
      fun group => group.granularity = .subBlock).Nodup := by
  have clonesNodup : (shownClones hash thresholds digests).Nodup :=
    ((Clone.search_ordered coherent).imp fun {_ _} ordered same =>
      ordered.1 (congrArg Clone.fingerprint same)).filter _
  have shownNodup : ((shownClones hash thresholds digests).map (blockGroup digests)).Nodup :=
    List.Nodup.map_on (fun left inLeft right inRight same =>
      eq_of_block_group_eq coherent (mem_shown_clones.mp inLeft).1
        (mem_shown_clones.mp inRight).1 same)
      clonesNodup
  obtain ⟨chosen, chosenPerm, part⟩ := DuplicateGroup.drop_nested_subperm
    ((shownClones hash thresholds digests).map (blockGroup digests))
  have keptNodup := chosenPerm.nodup_iff.mp (shownNodup.sublist part)
  have noBlocks : ((wholeMembers thresholds digests).filterMap (wholeGroup? digests)).filter
      (fun group => group.granularity = .subBlock) = [] := by
    rw [List.filter_eq_nil_iff]
    intro group member
    obtain ⟨members, _, made⟩ := List.mem_filterMap.mp member
    simp [granularity_of_whole_group? made]
  have sorted := (List.mergeSort_perm ((wholeMembers thresholds digests).filterMap
    (wholeGroup? digests) ++ DuplicateGroup.dropNested
      ((shownClones hash thresholds digests).map (blockGroup digests))) DuplicateGroup.le).filter
        fun group => group.granularity = .subBlock
  rw [List.filter_append, noBlocks, List.nil_append] at sorted
  exact sorted.nodup_iff.mpr (keptNodup.filter _)

theorem groups_eq_nil_iff (coherent : Coherent hash digests) :
    (ofOrdered hash thresholds digests).groups = [] ↔
      ¬ DuplicateUnits thresholds digests ∧ ¬ RepeatedRun thresholds digests := by
  rw [List.eq_nil_iff_forall_not_mem]
  constructor
  · intro empty
    constructor
    · intro duplicate
      obtain ⟨members, isWhole⟩ := List.exists_mem_of_ne_nil _ (duplicate_units_iff.mp duplicate)
      obtain ⟨group, made, _⟩ := whole_group?_of_mem_whole_members isWhole
      exact empty group (mem_groups.mpr (Or.inl ⟨members, isWhole, made⟩))
    · intro repeated
      obtain ⟨clone, found⟩ := List.exists_mem_of_ne_nil _
        ((search_ne_nil_iff coherent).mpr repeated)
      -- Whatever keeps the clone out of the report is itself reported.
      by_cases restates :
        RestatesUnits thresholds digests (ofOrdered hash thresholds digests) clone
      · obtain ⟨_, group, inReport, _⟩ := restates
        exact empty group inReport
      · obtain ⟨group, inReport, _⟩ := assigned_of_not_reported found restates (empty _)
        exact empty group inReport
  · rintro ⟨noUnits, noRun⟩ group inReport
    rcases mem_groups.mp inReport with ⟨members, isWhole, _⟩ | isKept
    · exact noUnits (duplicate_units_iff.mpr (List.ne_nil_of_mem isWhole))
    · obtain ⟨clone, shown, _⟩ := exists_shown_of_mem_drop_nested isKept
      have found := (mem_shown_clones.mp shown).1
      exact noRun ((search_ne_nil_iff coherent).mp (List.ne_nil_of_mem found))

end Groups
end DuplicationReport

namespace Detector

open DuplicationReport

theorem finish_groups_eq_nil_iff (detector : Detector)
    (coherent : Coherent Fingerprint.ofBytes detector.digests) :
    detector.finish.groups = [] ↔ ¬ DuplicateUnits detector.thresholds detector.digests ∧
      ¬ RepeatedRun detector.thresholds detector.digests := by
  have perm : (detector.digests.mergeSort UnitDigest.le).Perm detector.digests :=
    List.mergeSort_perm _ _
  have duplicates : DuplicateUnits detector.thresholds (detector.digests.mergeSort UnitDigest.le) ↔
      DuplicateUnits detector.thresholds detector.digests :=
    ⟨duplicate_units_of_perm perm, duplicate_units_of_perm perm.symm⟩
  have runs : RepeatedRun detector.thresholds (detector.digests.mergeSort UnitDigest.le) ↔
      RepeatedRun detector.thresholds detector.digests :=
    ⟨repeated_run_of_perm perm, repeated_run_of_perm perm.symm⟩
  rw [← duplicates, ← runs]
  exact groups_eq_nil_iff (coherent_of_perm coherent perm.symm)

/-- Each reported group of blocks is one clone of the search. A clone that restates a group of whole
units is not reported; any other clone that is missing has its locations inside different locations
of one reported group of blocks. So a report is empty only where there is nothing to report. -/
theorem finish_accounts_for_clones (detector : Detector)
    (coherent : Coherent Fingerprint.ofBytes detector.digests) :
    let thresholds := detector.thresholds
    let ordered := detector.digests.mergeSort UnitDigest.le
    let clones := Clone.search Fingerprint.ofBytes ordered thresholds
    let report := detector.finish
    (report.groups.filter fun group => group.granularity = .subBlock).Nodup ∧
    (∀ group ∈ report.groups, group.granularity = .subBlock →
      ∃! clone, clone ∈ clones ∧ group = blockGroup ordered clone ∧
        group.locations = clone.spans.map (spanLocation ordered)) ∧
    (∀ clone ∈ clones, RestatesUnits thresholds ordered report clone →
      blockGroup ordered clone ∉ report.groups) ∧
    (∀ clone ∈ clones, ¬ RestatesUnits thresholds ordered report clone →
      blockGroup ordered clone ∉ report.groups →
      ∃ group ∈ report.groups, group.granularity = .subBlock ∧
        Assigned (clone.spans.map (spanLocation ordered)) group.locations) ∧
    (report.groups = [] ↔ ¬ DuplicateUnits thresholds detector.digests ∧
      ¬ RepeatedRun thresholds detector.digests) := by
  intro thresholds ordered clones report
  have perm : ordered.Perm detector.digests := List.mergeSort_perm _ _
  have orderedCoherent := coherent_of_perm coherent perm.symm
  refine ⟨sub_blocks_nodup orderedCoherent, ?_, ?_, ?_, detector.finish_groups_eq_nil_iff coherent⟩
  · intro group inReport isBlock
    obtain ⟨clone, ⟨found, same⟩, only⟩ :=
      exists_clone_of_sub_block orderedCoherent inReport isBlock
    refine ⟨clone, ⟨found, same, congrArg DuplicateGroup.locations same⟩, ?_⟩
    rintro other ⟨otherFound, otherSame, _⟩
    exact only other ⟨otherFound, otherSame⟩
  · intro clone found restates
    exact not_reported_of_restates_units orderedCoherent found restates
  · intro clone found notRestating unreported
    exact assigned_of_not_reported found notRestating unreported

theorem finish_accounts_for_clones_sample :
    (Detector.mk Clone.sampleThresholds Clone.sampleDigests).finish.groups ≠ [] := by
  have emptyIff := (finish_accounts_for_clones
    ⟨Clone.sampleThresholds, Clone.sampleDigests⟩ Clone.sample_coherent).2.2.2.2
  intro empty
  refine (emptyIff.mp empty).2 ⟨⟨0, 0, 0, 3⟩, ⟨1, 0, 0, 3⟩, ?_⟩
  decide

end Detector
end CodeAudit
