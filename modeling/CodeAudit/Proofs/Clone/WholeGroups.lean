import CodeAudit.Proofs.Clone.Ingestion
import CodeAudit.Proofs.Clone.Reporting
import Mathlib.Data.List.FinRange

/-!
Groups of whole units and the classes they stand for. The units of a fingerprint that are long
enough are one class, and each class of two units or more is one group.
-/

namespace CodeAudit

namespace Fingerprint

def Before (left right : Fingerprint) : Prop :=
  left.le right = true ∧ left ≠ right

theorem before_asymm (left right : Fingerprint) (before : left.Before right) :
    ¬ right.Before left :=
  fun after => before.2 (eq_of_le_of_le before.1 after.1)

theorem before_trans (left middle right : Fingerprint) (earlier : left.Before middle)
    (later : middle.Before right) : left.Before right := by
  refine ⟨le_order.transitive left middle right earlier.1 later.1, ?_⟩
  intro same
  subst same
  exact before_asymm left middle earlier later

end Fingerprint

namespace DuplicationReport

def inClass (thresholds : Thresholds) (print : Fingerprint) (digest : UnitDigest) : Bool :=
  digest.fingerprint == print && decide (max thresholds.unitLines 1 ≤ digest.significantLines)

def classOf (thresholds : Thresholds) (digests : List UnitDigest) (print : Fingerprint) :
    List UnitDigest :=
  digests.filter (inClass thresholds print)

def classGroup (thresholds : Thresholds) (digests : List UnitDigest) (print : Fingerprint) :
    DuplicateGroup :=
  ⟨.wholeUnit, print, none, (classOf thresholds digests print).map unitLocation⟩

def wholeGroups (thresholds : Thresholds) (digests : List UnitDigest) : List DuplicateGroup :=
  (wholeMembers thresholds digests).filterMap (wholeGroup? digests)

def groupedPrints (thresholds : Thresholds) (digests : List UnitDigest) : List Fingerprint :=
  (firstOfRuns id (((eligible thresholds digests).map fun (digest, _) =>
    digest.fingerprint).mergeSort Fingerprint.le)).filter fun print =>
      2 ≤ (classOf thresholds digests print).length

section Classes

variable {thresholds : Thresholds} {digests : List UnitDigest} {print : Fingerprint}

theorem in_class_iff {digest : UnitDigest} : inClass thresholds print digest = true ↔
    digest.fingerprint = print ∧ max thresholds.unitLines 1 ≤ digest.significantLines := by
  rw [inClass, Bool.and_eq_true, beq_iff_eq, decide_eq_true_eq]

theorem members_of_eq (thresholds : Thresholds) (digests : List UnitDigest)
    (print : Fingerprint) : membersOf thresholds digests print =
      (digests.zipIdx.filter (inClass thresholds print ∘ Prod.fst)).map Prod.snd := by
  rw [membersOf, eligible, List.filter_filter]
  rfl

theorem class_of_eq (thresholds : Thresholds) (digests : List UnitDigest)
    (print : Fingerprint) : classOf thresholds digests print =
      (digests.zipIdx.filter (inClass thresholds print ∘ Prod.fst)).map Prod.fst := by
  rw [← List.filter_map, List.zipIdx_map_fst, classOf]

theorem length_members_of (thresholds : Thresholds) (digests : List UnitDigest)
    (print : Fingerprint) :
    (membersOf thresholds digests print).length = (classOf thresholds digests print).length := by
  rw [members_of_eq, List.length_map, class_of_eq, List.length_map]

theorem units_members_of (thresholds : Thresholds) (digests : List UnitDigest)
    (print : Fingerprint) :
    (membersOf thresholds digests print).filterMap (fun index => digests[index]?) =
      classOf thresholds digests print := by
  have found : ∀ entry ∈ digests.zipIdx.filter (inClass thresholds print ∘ Prod.fst),
      ((fun index => digests[index]?) ∘ Prod.snd) entry = (some ∘ Prod.fst) entry := by
    intro entry member
    exact List.mk_mem_zipIdx_iff_getElem?.mp (List.mem_of_mem_filter member)
  rw [members_of_eq, List.filterMap_map, List.filterMap_congr found, List.filterMap_eq_map,
    class_of_eq]

theorem whole_group?_members_of (member : classOf thresholds digests print ≠ []) :
    wholeGroup? digests (membersOf thresholds digests print) =
      some (classGroup thresholds digests print) := by
  obtain ⟨first, rest, units⟩ := List.exists_cons_of_ne_nil member
  have isFirst : first ∈ classOf thresholds digests print := by simp [units]
  have samePrint := (in_class_iff.mp (List.mem_filter.mp isFirst).2).1
  rw [wholeGroup?, units_members_of, classGroup, units, List.head?_cons, Option.map_some, samePrint]

theorem whole_groups_eq (thresholds : Thresholds) (digests : List UnitDigest) :
    wholeGroups thresholds digests =
      (groupedPrints thresholds digests).map (classGroup thresholds digests) := by
  have members : wholeMembers thresholds digests =
      (groupedPrints thresholds digests).map (membersOf thresholds digests) := by
    rw [wholeMembers, List.filter_map, groupedPrints]
    simp only [← length_members_of]
    rfl
  have made : ∀ print ∈ groupedPrints thresholds digests,
      (wholeGroup? digests ∘ membersOf thresholds digests) print =
        (some ∘ classGroup thresholds digests) print := by
    intro print listed
    apply whole_group?_members_of
    have several := (List.mem_filter.mp listed).2
    intro empty
    simp [empty] at several
  rw [wholeGroups, members, List.filterMap_map, List.filterMap_congr made, List.filterMap_eq_map]

theorem mem_grouped_prints : print ∈ groupedPrints thresholds digests ↔
    2 ≤ (classOf thresholds digests print).length := by
  rw [groupedPrints, List.mem_filter, decide_eq_true_eq, and_iff_right_iff_imp, mem_first_of_runs,
    List.mem_mergeSort]
  intro several
  obtain ⟨digest, member⟩ := List.exists_mem_of_length_pos
    (Nat.lt_of_lt_of_le Nat.zero_lt_two several)
  obtain ⟨listed, accepted⟩ := List.mem_filter.mp member
  obtain ⟨samePrint, long⟩ := in_class_iff.mp accepted
  obtain ⟨index, found⟩ := List.mem_iff_getElem?.mp listed
  rw [List.mem_map]
  refine ⟨(digest, index), ?_, samePrint⟩
  rw [eligible, List.mem_filter]
  exact ⟨List.mk_mem_zipIdx_iff_getElem?.mpr found, by simpa using long⟩

theorem grouped_prints_ordered (thresholds : Thresholds) (digests : List UnitDigest) :
    (groupedPrints thresholds digests).Pairwise Fingerprint.Before := by
  apply List.Pairwise.filter
  apply first_of_runs_pairwise Fingerprint.before_trans
  apply (merge_sort_sorted Fingerprint.le_order _).imp
  intro left right sorted
  by_cases same : left = right
  · exact Or.inl same
  · exact Or.inr ⟨sorted, same⟩

theorem grouped_prints_nodup (thresholds : Thresholds) (digests : List UnitDigest) :
    (groupedPrints thresholds digests).Nodup :=
  (grouped_prints_ordered thresholds digests).imp And.right

end Classes

section Report

variable (hash : RunHash) (thresholds : Thresholds) (digests : List UnitDigest)

def blockGroups : List DuplicateGroup :=
  DuplicateGroup.dropNested ((shownClones hash thresholds digests).map (blockGroup digests))

theorem groups_eq : (ofOrdered hash thresholds digests).groups =
    (wholeGroups thresholds digests ++ blockGroups hash thresholds digests).mergeSort
      DuplicateGroup.le :=
  rfl

theorem filter_whole_groups :
    (ofOrdered hash thresholds digests).groups.filter
        (fun group => group.granularity = .wholeUnit) =
      (wholeGroups thresholds digests).mergeSort DuplicateGroup.le := by
  have allWhole : (wholeGroups thresholds digests).filter
      (fun group => group.granularity = .wholeUnit) = wholeGroups thresholds digests := by
    apply List.filter_eq_self.mpr
    intro group member
    rw [whole_groups_eq] at member
    obtain ⟨print, _, rfl⟩ := List.mem_map.mp member
    rfl
  have noneWhole : (blockGroups hash thresholds digests).filter
      (fun group => group.granularity = .wholeUnit) = [] := by
    apply List.filter_eq_nil_iff.mpr
    intro group member
    obtain ⟨clone, _, rfl⟩ := exists_shown_of_mem_drop_nested member
    simp [blockGroup]
  rw [groups_eq, filter_merge_sort DuplicateGroup.le_order, List.filter_append, allWhole, noneWhole,
    List.append_nil]

end Report

end DuplicationReport

theorem DuplicateGroup.whole_first (groups : List DuplicateGroup)
    (ordered : groups.Pairwise fun left right => left.le right = true) :
    groups = groups.filter (fun group => group.granularity = .wholeUnit) ++
      groups.filter (fun group => group.granularity = .subBlock) := by
  induction groups with
  | nil => rfl
  | cons first rest ih =>
      obtain ⟨before, restOrdered⟩ := List.pairwise_cons.mp ordered
      cases kind : first.granularity with
      | wholeUnit =>
          rw [List.filter_cons_of_pos (by simp [kind]), List.filter_cons_of_neg (by simp [kind]),
            List.cons_append, ← ih restOrdered]
      | subBlock =>
          have noneWhole : rest.filter (fun group => group.granularity = .wholeUnit) = [] := by
            apply List.filter_eq_nil_iff.mpr
            intro group member isWhole
            have sorted := (le_iff first group).mp (before group member)
            rw [kind, of_decide_eq_true isWhole] at sorted
            simp [Granularity.rank] at sorted
          have blocks := ih restOrdered
          rw [noneWhole, List.nil_append] at blocks
          rw [List.filter_cons_of_neg (by simp [kind]), List.filter_cons_of_pos (by simp [kind]),
            noneWhole, List.nil_append, ← blocks]

namespace SourceUnit

/-- The place of a whole unit. -/
def location (unit : SourceUnit) : Location :=
  ⟨unit.path, 1, max unit.lineCount 1⟩

/-- Whether units are equal up to layout, with enough lines in their normal form. -/
def SameText (thresholds : Thresholds) (left right : SourceUnit) : Prop :=
  Text.normalForm left.source = Text.normalForm right.source ∧
    max 1 thresholds.unitLines ≤ Text.lineCount (Text.normalForm left.source)

/-- Different normal forms of the units have different fingerprints. -/
def SeparateTexts (units : List SourceUnit) : Prop :=
  ∀ left ∈ units, ∀ right ∈ units,
    Fingerprint.ofText (Text.normalForm left.source) =
      Fingerprint.ofText (Text.normalForm right.source) →
    Text.normalForm left.source = Text.normalForm right.source

instance (units : List SourceUnit) : Decidable (SeparateTexts units) :=
  inferInstanceAs (Decidable (∀ left ∈ units, ∀ right ∈ units, _ → _))

end SourceUnit

/-- Positions of units, sorted into the classes of those that are equal up to layout and long
enough. A unit that is equal to no other one is in no class. -/
structure DuplicateClasses (thresholds : Thresholds) (units : List SourceUnit)
    (classes : List (List (Fin units.length))) : Prop where
  once : classes.flatten.Nodup
  several : ∀ members ∈ classes, 2 ≤ members.length
  byPath : ∀ members ∈ classes,
    members.Pairwise fun left right => (units.get left).path ≤ (units.get right).path
  together : ∀ left right, left ≠ right →
    ((∃ members ∈ classes, left ∈ members ∧ right ∈ members) ↔
      (units.get left).SameText thresholds (units.get right))

namespace DuplicationReport

section Positions

variable {thresholds : Thresholds} {units : List SourceUnit} {print : Fingerprint}

def digestAt (units : List SourceUnit) (index : Fin units.length) : UnitDigest :=
  UnitDigest.ofUnit (units.get index)

/-- The positions of units in the order in which their digests are visited. -/
def visited (units : List SourceUnit) : List (Fin units.length) :=
  (List.finRange units.length).mergeSort fun left right =>
    (digestAt units left).le (digestAt units right)

def positionsOf (thresholds : Thresholds) (units : List SourceUnit) (print : Fingerprint) :
    List (Fin units.length) :=
  (visited units).filter (inClass thresholds print ∘ digestAt units)

theorem map_visited (units : List SourceUnit) :
    (visited units).map (digestAt units) =
      (units.map UnitDigest.ofUnit).mergeSort UnitDigest.le := by
  have digests : (List.finRange units.length).map (digestAt units) =
      units.map UnitDigest.ofUnit := by
    conv => rhs; rw [← List.map_get_finRange units]
    rw [List.map_map]
    rfl
  rw [← digests, merge_sort_map, visited]

theorem visited_by_path (units : List SourceUnit) :
    (visited units).Pairwise fun left right =>
      (units.get left).path ≤ (units.get right).path := by
  have sorted := merge_sort_sorted UnitDigest.le_order (units.map UnitDigest.ofUnit)
  rw [← map_visited] at sorted
  exact (List.pairwise_map.mp sorted).imp UnitDigest.path_le_of_le

theorem map_positions_of (thresholds : Thresholds) (units : List SourceUnit)
    (print : Fingerprint) :
    (positionsOf thresholds units print).map (digestAt units) =
      classOf thresholds ((units.map UnitDigest.ofUnit).mergeSort UnitDigest.le) print := by
  rw [← map_visited, classOf, List.filter_map]
  rfl

theorem positions_of_nodup (thresholds : Thresholds) (units : List SourceUnit)
    (print : Fingerprint) : (positionsOf thresholds units print).Nodup :=
  ((List.mergeSort_perm _ _).nodup_iff.mpr (List.nodup_finRange units.length)).filter _

theorem mem_positions_of {index : Fin units.length} :
    index ∈ positionsOf thresholds units print ↔
      Fingerprint.ofText (Text.normalForm (units.get index).source) = print ∧
        max 1 thresholds.unitLines ≤ Text.lineCount (Text.normalForm (units.get index).source) := by
  have sameLines : (digestAt units index).significantLines =
      Text.lineCount (Text.normalForm (units.get index).source) := by
    rw [Text.lineCount, Text.normalForm, String.toList_ofList]
    rfl
  rw [positionsOf, List.mem_filter, visited, List.mem_mergeSort, Function.comp_apply, in_class_iff,
    sameLines, Nat.max_comm]
  exact and_iff_right (List.mem_finRange index)

theorem duplicate_classes_of_prints (separate : SourceUnit.SeparateTexts units)
    {prints : List Fingerprint}
    (perm : prints.Perm (groupedPrints thresholds
      ((units.map UnitDigest.ofUnit).mergeSort UnitDigest.le))) :
    DuplicateClasses thresholds units (prints.map (positionsOf thresholds units)) := by
  have grouped : ∀ print, print ∈ prints ↔ 2 ≤ (positionsOf thresholds units print).length := by
    intro print
    rw [perm.mem_iff, mem_grouped_prints, ← map_positions_of, List.length_map]
  constructor
  · rw [List.nodup_flatten]
    constructor
    · intro members listed
      obtain ⟨print, _, rfl⟩ := List.mem_map.mp listed
      exact positions_of_nodup thresholds units print
    · apply List.pairwise_map.mpr
      apply (perm.nodup_iff.mpr (grouped_prints_nodup _ _)).imp
      intro left right different index inLeft inRight
      exact different ((mem_positions_of.mp inLeft).1.symm.trans (mem_positions_of.mp inRight).1)
  · intro members listed
    obtain ⟨print, isPrint, rfl⟩ := List.mem_map.mp listed
    exact (grouped print).mp isPrint
  · intro members listed
    obtain ⟨print, _, rfl⟩ := List.mem_map.mp listed
    exact (visited_by_path units).filter _
  · intro left right different
    constructor
    · rintro ⟨members, listed, inLeft, inRight⟩
      obtain ⟨print, _, rfl⟩ := List.mem_map.mp listed
      obtain ⟨leftPrint, long⟩ := mem_positions_of.mp inLeft
      obtain ⟨rightPrint, _⟩ := mem_positions_of.mp inRight
      exact ⟨separate _ (units.get_mem left) _ (units.get_mem right)
        (leftPrint.trans rightPrint.symm), long⟩
    · rintro ⟨same, long⟩
      have inLeft := mem_positions_of.mpr ⟨rfl, long⟩
      have inRight := mem_positions_of.mpr ⟨congrArg Fingerprint.ofText same.symm, same ▸ long⟩
      have pair : [left, right].Nodup := by simpa using different
      have inside : [left, right] ⊆ positionsOf thresholds units
          (Fingerprint.ofText (Text.normalForm (units.get left).source)) := by
        simpa using ⟨inLeft, inRight⟩
      have several := (List.subperm_of_subset pair inside).length_le
      exact ⟨_, List.mem_map_of_mem ((grouped _).mpr several), inLeft, inRight⟩

end Positions
end DuplicationReport

namespace Detector

open Ingestion DuplicationReport

/-- The groups of whole units are the classes of units that are equal up to layout and long enough,
and come before the groups of blocks. -/
theorem whole_groups_are_duplicate_classes (thresholds : Thresholds) (calls : List Ingestion)
    (separate : SourceUnit.SeparateTexts (ingested calls)) :
    let units := ingested calls
    let groups := ((new thresholds).run calls).finish.groups
    let whole := groups.filter fun group => group.granularity = .wholeUnit
    let blocks := groups.filter fun group => group.granularity = .subBlock
    (∃ classes : List (List (Fin units.length)), DuplicateClasses thresholds units classes ∧
      whole.map DuplicateGroup.locations = classes.map fun members =>
        members.map fun index => (units.get index).location) ∧
    groups = whole ++ blocks ∧
    groups.Pairwise fun left right =>
      left.granularity.rank < right.granularity.rank ∨
        left.granularity.rank = right.granularity.rank ∧
          (left.firstPath < right.firstPath ∨
            left.firstPath = right.firstPath ∧ left.firstLine ≤ right.firstLine) := by
  intro units groups whole blocks
  have isReport : groups = (ofOrdered Fingerprint.ofBytes thresholds
      ((units.map UnitDigest.ofUnit).mergeSort UnitDigest.le)).groups := by
    simp only [groups, finish_run]
    rfl
  have ordered : groups.Pairwise fun left right => left.le right = true := by
    rw [isReport]
    exact merge_sort_sorted DuplicateGroup.le_order _
  refine ⟨?_, DuplicateGroup.whole_first groups ordered, ?_⟩
  · generalize visits : (units.map UnitDigest.ofUnit).mergeSort UnitDigest.le = digests at isReport
    let prints := (groupedPrints thresholds digests).mergeSort fun left right =>
      (classGroup thresholds digests left).le (classGroup thresholds digests right)
    have asGroups : whole = prints.map (classGroup thresholds digests) := by
      simp only [whole, isReport, prints]
      rw [filter_whole_groups, whole_groups_eq, merge_sort_map]
    refine ⟨prints.map (positionsOf thresholds units), ?_, ?_⟩
    · apply duplicate_classes_of_prints separate
      rw [visits]
      exact List.mergeSort_perm _ _
    · rw [asGroups, List.map_map, List.map_map]
      apply List.map_congr_left
      intro print _
      simp only [Function.comp_apply, classGroup]
      rw [← visits, ← map_positions_of, List.map_map]
      rfl
  · apply ordered.imp
    intro left right
    exact (DuplicateGroup.le_iff left right).mp

/-- The first unit and the last differ in layout only, and are listed together. -/
theorem whole_groups_are_duplicate_classes_sample :
    let units := [plainUnit "b.rs" " one \n\n two", plainUnit "c.rs" "one",
      plainUnit "a.rs" "one\ntwo"]
    SourceUnit.SeparateTexts units ∧
      ∃ classes : List (List (Fin 3)),
        (((new ⟨2, 50, 2⟩).run [.batch units]).finish.groups.filter fun group =>
          group.granularity = .wholeUnit).map DuplicateGroup.locations = classes.map (fun members =>
            members.map fun index => (units.get index).location) ∧
        ∃ members ∈ classes, 0 ∈ members ∧ 2 ∈ members := by
  intro units
  have separate : SourceUnit.SeparateTexts units := by decide +kernel
  obtain ⟨classes, partition, listed⟩ :=
    (whole_groups_are_duplicate_classes ⟨2, 50, 2⟩ [.batch units] separate).1
  have same : (units.get 0).SameText ⟨2, 50, 2⟩ (units.get 2) := by
    constructor
    · decide +kernel
    · decide +kernel
  have classified : DuplicateClasses ⟨2, 50, 2⟩ units classes := partition
  exact ⟨separate, classes, listed, (classified.together 0 2 (by decide)).mpr same⟩

end Detector
end CodeAudit
