import CodeAudit.Proofs.Clone.ClosedPart
import CodeAudit.Proofs.Clone.WholeGroups

/-!
Units that have nothing in common. Where the paths divide the units so that neither fingerprints nor
statements occur on both sides, each group of a report is on one side, and the groups of a side are
the report on the units of that side.
-/

namespace CodeAudit

def UnitDigest.statements (digest : UnitDigest) : List StatementDigest :=
  digest.routines.flatMap fun body => body.statements

/-- Units with the same fingerprint or with a common statement are on the same side. -/
structure Divided (chosen : String → Bool) (digests : List UnitDigest) : Prop where
  prints : ∀ left ∈ digests, ∀ right ∈ digests, left.fingerprint = right.fingerprint →
    chosen left.path = chosen right.path
  hashes : ∀ left ∈ digests, ∀ right ∈ digests, ∀ statement ∈ left.statements,
    ∀ other ∈ right.statements, statement.hash = other.hash → chosen left.path = chosen right.path

theorem Divided.not {chosen : String → Bool} {digests : List UnitDigest}
    (divided : Divided chosen digests) : Divided (fun path => !chosen path) digests where
  prints left inLeft right inRight same :=
    congrArg Bool.not (divided.prints left inLeft right inRight same)
  hashes left inLeft right inRight statement inStatement other inOther same :=
    congrArg Bool.not
      (divided.hashes left inLeft right inRight statement inStatement other inOther same)

def onSide (chosen : String → Bool) (digests : List UnitDigest) : List UnitDigest :=
  digests.filter fun digest => chosen digest.path

def unitOnSide (chosen : String → Bool) (digests : List UnitDigest) (unit : Nat) : Bool :=
  digests[unit]?.any fun digest => chosen digest.path

theorem under_head_increasing {place : Nat → Nat} (increasing : StrictMono place) :
    StrictMono (underHead place) := by
  intro left right earlier
  cases right with
  | zero => exact absurd earlier (Nat.not_lt_zero left)
  | succ right =>
      cases left with
      | zero => exact Nat.succ_pos (place right)
      | succ left => exact Nat.succ_lt_succ (increasing (Nat.lt_of_succ_lt_succ earlier))

/-- The places that the accepted items of a list have in it. -/
theorem exists_place_of_filter {Item : Type} (accepts : Item → Bool) (items : List Item) :
    ∃ place : Nat → Nat, StrictMono place ∧
      (∀ index, items[place index]? = (items.filter accepts)[index]?) ∧
      ∀ index, items[index]?.any accepts = true → ∃ source, index = place source := by
  induction items with
  | nil => exact ⟨id, strictMono_id, fun _ => rfl, fun _ accepted => by cases accepted⟩
  | cons head rest ih =>
      obtain ⟨place, increasing, placed, reached⟩ := ih
      cases isAccepted : accepts head with
      | true =>
          rw [List.filter_cons_of_pos isAccepted]
          refine ⟨underHead place, under_head_increasing increasing, ?_, ?_⟩
          · intro index
            cases index with
            | zero => rfl
            | succ index => exact placed index
          · intro index accepted
            cases index with
            | zero => exact ⟨0, rfl⟩
            | succ index =>
                obtain ⟨source, rfl⟩ := reached index accepted
                exact ⟨source + 1, rfl⟩
      | false =>
          rw [List.filter_cons_of_neg (ne_true_of_eq_false isAccepted)]
          refine ⟨fun index => place index + 1, ?_, placed, ?_⟩
          · intro left right earlier
            exact Nat.succ_lt_succ (increasing earlier)
          · intro index accepted
            cases index with
            | zero => simp [isAccepted] at accepted
            | succ index =>
                obtain ⟨source, rfl⟩ := reached index accepted
                exact ⟨source, rfl⟩

theorem exists_statement_of_window {digests : List UnitDigest} {span : Span}
    (window : IsWindow digests span) :
    ∃ digest statement, digests[span.unit]? = some digest ∧ statement ∈ digest.statements ∧
      (spanHashes digests span).head? = some statement.hash := by
  have nonempty : 0 < (spanStatements digests span).length := by
    rw [span_statements_length window]
    exact Nat.sub_pos_of_lt window.1
  obtain ⟨statement, rest, statements⟩ :=
    List.exists_cons_of_ne_nil (List.ne_nil_of_length_pos nonempty)
  have member : statement ∈ spanStatements digests span := by simp [statements]
  have inRoutine := List.mem_of_mem_drop (List.mem_of_mem_take member)
  rw [routineStatements] at inRoutine
  split at inRoutine
  · cases inRoutine
  · split at inRoutine
    · cases inRoutine
    · rename_i digest found _ body isBody
      refine ⟨digest, statement, found, ?_, ?_⟩
      · exact List.mem_flatMap.mpr ⟨body, List.mem_of_getElem? isBody, inRoutine⟩
      · rw [spanHashes, statements, List.map_cons, List.head?_cons]

section Side

variable {chosen : String → Bool} {digests : List UnitDigest} (divided : Divided chosen digests)

include divided

theorem unit_on_side_eq_of_same {left right : Span} (leftWindow : IsWindow digests left)
    (rightWindow : IsWindow digests right)
    (same : spanHashes digests left = spanHashes digests right) :
    unitOnSide chosen digests left.unit = unitOnSide chosen digests right.unit := by
  obtain ⟨leftDigest, statement, leftFound, inLeft, leftHead⟩ :=
    exists_statement_of_window leftWindow
  obtain ⟨rightDigest, other, rightFound, inRight, rightHead⟩ :=
    exists_statement_of_window rightWindow
  rw [same, rightHead] at leftHead
  rw [unitOnSide, leftFound, unitOnSide, rightFound]
  exact divided.hashes leftDigest (List.mem_of_getElem? leftFound) rightDigest
    (List.mem_of_getElem? rightFound) statement inLeft other inRight
    (Option.some.inj leftHead).symm

theorem exists_closed_part : ∃ place,
    ClosedPart (unitOnSide chosen digests) place (onSide chosen digests) digests := by
  obtain ⟨place, increasing, inFilter, reached⟩ :=
    exists_place_of_filter (fun digest : UnitDigest => chosen digest.path) digests
  have placed : ∀ index, digests[place index]? = (onSide chosen digests)[index]? := inFilter
  have accepted : ∀ index, index < (onSide chosen digests).length →
      unitOnSide chosen digests (place index) = true := by
    intro index bound
    have found : (onSide chosen digests)[index]? = some (onSide chosen digests)[index] :=
      List.getElem?_eq_getElem bound
    have isChosen := (List.mem_filter.mp (List.getElem_mem bound)).2
    rw [unitOnSide, placed index]
    simpa [found] using isChosen
  refine ⟨place, increasing, placed, reached, accepted, ?_⟩
  intro span other window otherWindow same
  have moved : IsWindow digests (span.moved place) := is_window_moved placed window
  rw [← span_hashes_moved placed] at same
  rw [unit_on_side_eq_of_same divided otherWindow moved same]
  exact accepted span.unit (unit_lt_of_window window)

end Side

namespace DuplicationReport

section WholeUnits

variable {chosen : String → Bool} {thresholds : Thresholds} {digests : List UnitDigest}
  {print : Fingerprint}

theorem class_of_on_side (chosen : String → Bool) (thresholds : Thresholds)
    (digests : List UnitDigest) (print : Fingerprint) :
    classOf thresholds (onSide chosen digests) print =
      onSide chosen (classOf thresholds digests print) := by
  rw [classOf, onSide, List.filter_comm, onSide, classOf]

theorem class_of_on_side_of_mem (divided : Divided chosen digests) {digest : UnitDigest}
    (member : digest ∈ classOf thresholds digests print) (accepted : chosen digest.path = true) :
    classOf thresholds (onSide chosen digests) print = classOf thresholds digests print := by
  rw [class_of_on_side]
  apply List.filter_eq_self.mpr
  intro other inClass
  obtain ⟨listed, isMember⟩ := List.mem_filter.mp member
  obtain ⟨otherListed, isOther⟩ := List.mem_filter.mp inClass
  have samePrint := (in_class_iff.mp isOther).1.trans (in_class_iff.mp isMember).1.symm
  rw [divided.prints other otherListed digest listed samePrint, accepted]

theorem exists_first_of_grouped (grouped : print ∈ groupedPrints thresholds digests) :
    ∃ first ∈ classOf thresholds digests print,
      (classGroup thresholds digests print).firstPath = first.path := by
  have several := mem_grouped_prints.mp grouped
  obtain ⟨first, rest, units⟩ := List.exists_cons_of_ne_nil
    (List.ne_nil_of_length_pos (Nat.lt_of_lt_of_le Nat.zero_lt_two several))
  refine ⟨first, by simp [units], ?_⟩
  rw [classGroup, units]
  rfl

theorem class_of_on_side_of_first_path (divided : Divided chosen digests)
    (grouped : print ∈ groupedPrints thresholds digests)
    (accepted : chosen (classGroup thresholds digests print).firstPath = true) :
    classOf thresholds (onSide chosen digests) print = classOf thresholds digests print := by
  obtain ⟨first, member, isFirst⟩ := exists_first_of_grouped grouped
  rw [isFirst] at accepted
  exact class_of_on_side_of_mem divided member accepted

theorem mem_grouped_prints_on_side (divided : Divided chosen digests) :
    print ∈ groupedPrints thresholds (onSide chosen digests) ↔
      print ∈ groupedPrints thresholds digests ∧
        chosen (classGroup thresholds digests print).firstPath = true := by
  constructor
  · intro grouped
    obtain ⟨digest, member, _⟩ := exists_first_of_grouped grouped
    rw [class_of_on_side] at member
    obtain ⟨inWhole, accepted⟩ := List.mem_filter.mp member
    have same := class_of_on_side_of_mem divided inWhole accepted
    have groupedToo : print ∈ groupedPrints thresholds digests := by
      rw [mem_grouped_prints, ← same]
      exact mem_grouped_prints.mp grouped
    obtain ⟨first, listed, isFirst⟩ := exists_first_of_grouped groupedToo
    rw [← same, class_of_on_side] at listed
    rw [isFirst]
    exact ⟨groupedToo, (List.mem_filter.mp listed).2⟩
  · rintro ⟨grouped, accepted⟩
    rw [mem_grouped_prints, class_of_on_side_of_first_path divided grouped accepted]
    exact mem_grouped_prints.mp grouped

theorem whole_groups_on_side (divided : Divided chosen digests) :
    (wholeGroups thresholds digests).filter (fun group => chosen group.firstPath) =
      wholeGroups thresholds (onSide chosen digests) := by
  have prints : (groupedPrints thresholds digests).filter
        (fun print => chosen (classGroup thresholds digests print).firstPath) =
      groupedPrints thresholds (onSide chosen digests) := by
    apply eq_of_mem_iff_of_ordered Fingerprint.before_asymm
      ((grouped_prints_ordered thresholds digests).filter _) (grouped_prints_ordered _ _)
    intro print
    rw [List.mem_filter, mem_grouped_prints_on_side divided]
  rw [whole_groups_eq, whole_groups_eq, List.filter_map, ← prints]
  apply List.map_congr_left
  intro print listed
  obtain ⟨grouped, accepted⟩ := List.mem_filter.mp listed
  rw [classGroup, classGroup, class_of_on_side_of_first_path divided grouped accepted]

end WholeUnits

section Blocks

variable {chosen : String → Bool} {hash : RunHash} {thresholds : Thresholds}
  {digests : List UnitDigest}

theorem restates_iff {spans : List Span} :
    restatesWhole (wholeMembers thresholds digests) spans = true ↔
      (∃ print, 2 ≤ (classOf thresholds digests print).length ∧
        ∀ span ∈ spans, span.unit ∈ membersOf thresholds digests print) ∧
      (spans.map fun span => span.unit).Nodup := by
  rw [restatesWhole, Bool.and_eq_true, decide_eq_true_eq, List.any_eq_true]
  apply and_congr_left
  intro _
  simp only [List.all_eq_true, List.contains_iff_mem, mem_whole_members]
  constructor
  · rintro ⟨members, ⟨print, rfl, several⟩, listed⟩
    rw [length_members_of] at several
    exact ⟨print, several, listed⟩
  · rintro ⟨print, several, listed⟩
    rw [← length_members_of] at several
    exact ⟨_, ⟨print, rfl, several⟩, listed⟩

theorem mem_members_of_moved {place : Nat → Nat} {part : List UnitDigest}
    (placed : ∀ index, digests[place index]? = part[index]?) {print : Fingerprint} {index : Nat} :
    place index ∈ membersOf thresholds digests print ↔ index ∈ membersOf thresholds part print := by
  rw [mem_members_of, mem_members_of, placed]

/-- Whether a clone of one side restates a group of whole units is seen on that side. -/
theorem restates_whole_moved (divided : Divided chosen digests) {place : Nat → Nat}
    (placed : ∀ index, digests[place index]? = (onSide chosen digests)[index]?)
    (injective : Function.Injective place) (clone : Clone) :
    restatesWhole (wholeMembers thresholds digests) (clone.moved place).spans =
      restatesWhole (wholeMembers thresholds (onSide chosen digests)) clone.spans := by
  have units : ((clone.moved place).spans.map fun span => span.unit) =
      (clone.spans.map fun span => span.unit).map place := by
    rw [Clone.spans_moved, List.map_map, List.map_map]
    rfl
  rw [Bool.eq_iff_iff, restates_iff, restates_iff, units, List.nodup_map_iff injective]
  apply and_congr_left
  intro _
  apply exists_congr
  intro print
  have members : (∀ span ∈ (clone.moved place).spans,
        span.unit ∈ membersOf thresholds digests print) ↔
      ∀ span ∈ clone.spans, span.unit ∈ membersOf thresholds (onSide chosen digests) print := by
    rw [Clone.spans_moved, List.forall_mem_map]
    apply forall₂_congr
    intro span _
    exact mem_members_of_moved placed
  rw [members]
  apply and_congr_left
  intro listed
  -- The first unit of the clone is in the class, which is therefore on its side.
  obtain ⟨digest, found, samePrint, long⟩ :=
    mem_members_of.mp (listed clone.first List.mem_cons_self)
  obtain ⟨member, accepted⟩ := List.mem_filter.mp (List.mem_of_getElem? found)
  have inClass : digest ∈ classOf thresholds digests print :=
    List.mem_filter.mpr ⟨member, in_class_iff.mpr ⟨samePrint, Nat.max_comm .. ▸ long⟩⟩
  rw [class_of_on_side_of_mem divided inClass accepted]

theorem span_location_moved {place : Nat → Nat} {part : List UnitDigest}
    (placed : ∀ index, digests[place index]? = part[index]?) (span : Span) :
    spanLocation digests (span.moved place) = spanLocation part span := by
  rw [spanLocation, spanLines, span_statements_moved placed, spanLocation, spanLines, ← placed]
  rfl

theorem block_group_moved {place : Nat → Nat} {part : List UnitDigest}
    (placed : ∀ index, digests[place index]? = part[index]?) (clone : Clone) :
    blockGroup digests (clone.moved place) = blockGroup part clone := by
  have locations : (clone.moved place).spans.map (spanLocation digests) =
      clone.spans.map (spanLocation part) := by
    rw [Clone.spans_moved, List.map_map]
    apply List.map_congr_left
    intro span _
    exact span_location_moved placed span
  rw [blockGroup, locations]
  rfl

theorem chosen_span_location (chosen : String → Bool) {span : Span}
    (window : IsWindow digests span) :
    chosen (spanLocation digests span).path = unitOnSide chosen digests span.unit := by
  obtain ⟨digest, _, found, _⟩ := exists_statement_of_window window
  rw [spanLocation, unitOnSide, found]
  rfl

theorem chosen_location (divided : Divided chosen digests) (coherent : Coherent hash digests)
    {clone : Clone} (found : clone ∈ Clone.search hash digests thresholds) {location : Location}
    (listed : location ∈ (blockGroup digests clone).locations) :
    chosen location.path = unitOnSide chosen digests clone.first.unit := by
  have sound := Clone.sound_of_mem_search coherent found
  obtain ⟨span, member, rfl⟩ := List.mem_map.mp listed
  rw [chosen_span_location chosen (sound.windows span member)]
  exact unit_on_side_eq_of_same divided (sound.windows span member)
    (sound.windows clone.first List.mem_cons_self) (sound.same span member)

theorem shown_groups_on_side (divided : Divided chosen digests) (coherent : Coherent hash digests) :
    ((shownClones hash thresholds digests).map (blockGroup digests)).filter
        (fun group => chosen group.firstPath) =
      (shownClones hash thresholds (onSide chosen digests)).map
        (blockGroup (onSide chosen digests)) := by
  obtain ⟨place, inside⟩ := exists_closed_part divided
  have bySide : (shownClones hash thresholds digests).filter
        ((fun group => chosen group.firstPath) ∘ blockGroup digests) =
      (shownClones hash thresholds digests).filter
        fun clone => unitOnSide chosen digests clone.first.unit := by
    apply List.filter_congr
    intro clone shown
    have found := List.mem_of_mem_filter shown
    exact chosen_location divided coherent found List.mem_cons_self
  have moved : (shownClones hash thresholds digests).filter
        (fun clone => unitOnSide chosen digests clone.first.unit) =
      (shownClones hash thresholds (onSide chosen digests)).map (Clone.moved place) := by
    rw [shownClones, List.filter_comm, Clone.search_in_part inside coherent, List.filter_map,
      shownClones]
    congr 1
    apply List.filter_congr
    intro clone _
    exact congrArg Bool.not
      (restates_whole_moved divided inside.placed inside.increasing.injective clone)
  rw [List.filter_map, bySide, moved, List.map_map]
  apply List.map_congr_left
  intro clone _
  exact block_group_moved inside.placed clone

end Blocks
end DuplicationReport

namespace DuplicateGroup

/-- One step of the nesting check: a group is compared with kept groups of its own side only. -/
theorem filter_keep_unless_nested {accepts : DuplicateGroup → Bool} {kept : List DuplicateGroup}
    {group : DuplicateGroup}
    (separate : ∀ outer ∈ kept, group.nestedIn outer = true → accepts group = accepts outer) :
    (keepUnlessNested kept group).filter accepts =
      if accepts group then keepUnlessNested (kept.filter accepts) group
      else kept.filter accepts := by
  cases accepted : accepts group with
  | false =>
      rw [keepUnlessNested]
      split
      · rfl
      · rw [List.filter_append, List.filter_cons_of_neg (ne_true_of_eq_false accepted),
          List.filter_nil, List.append_nil]
        rfl
  | true =>
      have sameCheck : (kept.filter accepts).any group.nestedIn = kept.any group.nestedIn := by
        rw [Bool.eq_iff_iff, List.any_eq_true, List.any_eq_true]
        constructor
        · rintro ⟨outer, member, nested⟩
          exact ⟨outer, List.mem_of_mem_filter member, nested⟩
        · rintro ⟨outer, member, nested⟩
          have onSide : accepts outer = true := (separate outer member nested) ▸ accepted
          exact ⟨outer, List.mem_filter.mpr ⟨member, onSide⟩, nested⟩
      rw [if_pos rfl, keepUnlessNested, keepUnlessNested, sameCheck]
      split
      · rfl
      · rw [List.filter_append, List.filter_cons_of_pos accepted, List.filter_nil]

theorem filter_foldl_keep {accepts : DuplicateGroup → Bool} (groups kept : List DuplicateGroup)
    (separate : ∀ group ∈ groups, ∀ outer ∈ kept ++ groups, group.nestedIn outer = true →
      accepts group = accepts outer) :
    (groups.foldl keepUnlessNested kept).filter accepts =
      (groups.filter accepts).foldl keepUnlessNested (kept.filter accepts) := by
  induction groups generalizing kept with
  | nil => rfl
  | cons group rest ih =>
      have step := filter_keep_unless_nested fun outer inKept =>
        separate group List.mem_cons_self outer (List.mem_append_left _ inKept)
      have restSeparate : ∀ later ∈ rest, ∀ outer ∈ keepUnlessNested kept group ++ rest,
          later.nestedIn outer = true → accepts later = accepts outer := by
        intro later inRest outer inOuter
        apply separate later (List.mem_cons_of_mem _ inRest) outer
        rcases List.mem_append.mp inOuter with isKept | inTail
        · rw [keepUnlessNested] at isKept
          split at isKept
          · exact List.mem_append_left _ isKept
          · simp only [List.mem_append, List.mem_singleton] at isKept
            simp only [List.mem_append, List.mem_cons]
            tauto
        · simp [inTail]
      rw [List.foldl_cons, ih _ restSeparate, step]
      cases accepted : accepts group with
      | true => rw [List.filter_cons_of_pos accepted, List.foldl_cons, if_pos rfl]
      | false => rw [List.filter_cons_of_neg (ne_true_of_eq_false accepted)]; rfl

/-- Where no group is nested in one of the other side, nested groups are dropped side by side. -/
theorem drop_nested_filter {accepts : DuplicateGroup → Bool} {groups : List DuplicateGroup}
    (separate : ∀ group ∈ groups, ∀ outer ∈ groups, group.nestedIn outer = true →
      accepts group = accepts outer) :
    (dropNested groups).filter accepts = dropNested (groups.filter accepts) := by
  rw [dropNested, filter_foldl_keep, filter_merge_sort larger_first_order, List.filter_nil,
    dropNested]
  intro group member outer inOuter
  rw [List.nil_append] at inOuter
  exact separate group (List.mem_mergeSort.mp member) outer (List.mem_mergeSort.mp inOuter)

theorem exists_same_path_of_nested_in {group outer : DuplicateGroup} {location : Location}
    (nested : group.nestedIn outer = true) (listed : location ∈ group.locations) :
    ∃ around ∈ outer.locations, around.path = location.path := by
  obtain ⟨around, isListed, contains⟩ := exists_containing_of_nested_in nested listed
  simp only [Location.contains, Bool.and_eq_true, beq_iff_eq] at contains
  exact ⟨around, isListed, contains.1.1⟩

end DuplicateGroup

namespace DuplicationReport

section Sides

variable {chosen : String → Bool} {hash : RunHash} {digests : List UnitDigest}
  (thresholds : Thresholds) (divided : Divided chosen digests) (coherent : Coherent hash digests)

include divided coherent

theorem block_groups_on_side :
    (blockGroups hash thresholds digests).filter (fun group => chosen group.firstPath) =
      blockGroups hash thresholds (onSide chosen digests) := by
  rw [blockGroups, DuplicateGroup.drop_nested_filter, shown_groups_on_side divided coherent,
    blockGroups]
  intro group member outer inOuter nested
  obtain ⟨clone, shown, rfl⟩ := List.mem_map.mp member
  obtain ⟨outerClone, outerShown, rfl⟩ := List.mem_map.mp inOuter
  have found := List.mem_of_mem_filter shown
  have outerFound := List.mem_of_mem_filter outerShown
  have first : spanLocation digests clone.first ∈ (blockGroup digests clone).locations :=
    List.mem_cons_self
  obtain ⟨around, listed, samePath⟩ := DuplicateGroup.exists_same_path_of_nested_in nested first
  calc
    chosen (blockGroup digests clone).firstPath = chosen around.path := by rw [samePath]; rfl
    _ = unitOnSide chosen digests outerClone.first.unit :=
      chosen_location divided coherent outerFound listed
    _ = chosen (blockGroup digests outerClone).firstPath :=
      (chosen_location divided coherent outerFound List.mem_cons_self).symm

/-- The groups of one side are the report on the units of that side. -/
theorem groups_on_side :
    (ofOrdered hash thresholds digests).groups.filter (fun group => chosen group.firstPath) =
      (ofOrdered hash thresholds (onSide chosen digests)).groups := by
  rw [groups_eq, filter_merge_sort DuplicateGroup.le_order, List.filter_append,
    whole_groups_on_side divided, block_groups_on_side thresholds divided coherent, groups_eq]

end Sides
end DuplicationReport

/-- The items of both lists, each list in its order. -/
inductive Interleaved {Item : Type} : List Item → List Item → List Item → Prop where
  | nil : Interleaved [] [] []
  | left (item : Item) {left right mixed : List Item} (rest : Interleaved left right mixed) :
      Interleaved (item :: left) right (item :: mixed)
  | right (item : Item) {left right mixed : List Item} (rest : Interleaved left right mixed) :
      Interleaved left (item :: right) (item :: mixed)

namespace Interleaved

variable {Item : Type} {left right mixed : List Item}

theorem symm (interleaved : Interleaved left right mixed) : Interleaved right left mixed := by
  induction interleaved with
  | nil => exact nil
  | left item _ ih => exact Interleaved.right item ih
  | right item _ ih => exact Interleaved.left item ih

theorem perm (interleaved : Interleaved left right mixed) : mixed.Perm (left ++ right) := by
  induction interleaved with
  | nil => exact List.Perm.nil
  | left item _ ih => exact ih.cons item
  | right item _ ih => exact (ih.cons item).trans List.perm_middle.symm

theorem filter_eq_left (interleaved : Interleaved left right mixed) {accepts : Item → Bool}
    (inLeft : ∀ item ∈ left, accepts item = true) (inRight : ∀ item ∈ right, accepts item = false) :
    mixed.filter accepts = left := by
  induction interleaved with
  | nil => rfl
  | left item _ ih =>
      obtain ⟨accepted, others⟩ := List.forall_mem_cons.mp inLeft
      rw [List.filter_cons_of_pos accepted, ih others inRight]
  | right item _ ih =>
      obtain ⟨refused, others⟩ := List.forall_mem_cons.mp inRight
      rw [List.filter_cons_of_neg (ne_true_of_eq_false refused), ih inLeft others]

end Interleaved

/-- No unit of one list shares a path, a fingerprint or the hash of a statement with a unit of the
other. -/
structure Unrelated (left right : List UnitDigest) : Prop where
  paths : ∀ digest ∈ left, ∀ other ∈ right, digest.path ≠ other.path
  prints : ∀ digest ∈ left, ∀ other ∈ right, digest.fingerprint ≠ other.fingerprint
  hashes : ∀ statement ∈ allStatements left, ∀ other ∈ allStatements right,
    statement.hash ≠ other.hash

def hasPath (digests : List UnitDigest) (path : String) : Bool :=
  digests.any fun digest => digest.path == path

namespace Unrelated

variable {left right : List UnitDigest} (unrelated : Unrelated left right)

theorem has_path_left {digest : UnitDigest} (member : digest ∈ left) :
    hasPath left digest.path = true :=
  List.any_eq_true.mpr ⟨digest, member, beq_self_eq_true digest.path⟩

include unrelated

theorem has_path_right {digest : UnitDigest} (member : digest ∈ right) :
    hasPath left digest.path = false := by
  apply List.any_eq_false.mpr
  intro other inLeft
  simpa using unrelated.paths other inLeft digest member

theorem has_path_eq {first second : UnitDigest} (firstSide : first ∈ left ∨ first ∈ right)
    (secondSide : second ∈ left ∨ second ∈ right) (forward : first ∈ left → second ∉ right)
    (backward : second ∈ left → first ∉ right) :
    hasPath left first.path = hasPath left second.path := by
  rcases firstSide with firstLeft | firstRight
  · rcases secondSide with secondLeft | secondRight
    · rw [has_path_left firstLeft, has_path_left secondLeft]
    · exact absurd secondRight (forward firstLeft)
  · rcases secondSide with secondLeft | secondRight
    · exact absurd firstRight (backward secondLeft)
    · rw [unrelated.has_path_right firstRight, unrelated.has_path_right secondRight]

theorem divided {digests : List UnitDigest} (perm : digests.Perm (left ++ right)) :
    Divided (hasPath left) digests := by
  have sides : ∀ digest ∈ digests, digest ∈ left ∨ digest ∈ right := by
    intro digest member
    exact List.mem_append.mp (perm.mem_iff.mp member)
  constructor
  · intro first inFirst second inSecond same
    apply unrelated.has_path_eq (sides first inFirst) (sides second inSecond)
    · intro firstLeft secondRight
      exact unrelated.prints first firstLeft second secondRight same
    · intro secondLeft firstRight
      exact unrelated.prints second secondLeft first firstRight same.symm
  · intro first inFirst second inSecond statement inStatement other inOther same
    apply unrelated.has_path_eq (sides first inFirst) (sides second inSecond)
    · intro firstLeft secondRight
      exact unrelated.hashes statement (List.mem_flatMap.mpr ⟨first, firstLeft, inStatement⟩)
        other (List.mem_flatMap.mpr ⟨second, secondRight, inOther⟩) same
    · intro secondLeft firstRight
      exact unrelated.hashes other (List.mem_flatMap.mpr ⟨second, secondLeft, inOther⟩)
        statement (List.mem_flatMap.mpr ⟨first, firstRight, inStatement⟩) same.symm

end Unrelated

namespace Detector

open DuplicationReport

/-- The groups reported on units mixed with unrelated ones are those reported on each alone. -/
theorem unrelated_units_reported_apart (thresholds : Thresholds)
    {left right mixed : List UnitDigest} (interleaved : Interleaved left right mixed)
    (unrelated : Unrelated left right)
    (coherent : Coherent Fingerprint.ofBytes (left ++ right)) :
    (Detector.mk thresholds mixed).finish.groups.Perm
      ((Detector.mk thresholds left).finish.groups ++
        (Detector.mk thresholds right).finish.groups) := by
  let ordered := mixed.mergeSort UnitDigest.le
  have perm : ordered.Perm (left ++ right) :=
    (List.mergeSort_perm _ _).trans interleaved.perm
  have orderedCoherent := coherent_of_perm coherent perm.symm
  have divided := unrelated.divided perm
  have leftSide : onSide (hasPath left) ordered = left.mergeSort UnitDigest.le := by
    rw [onSide, filter_merge_sort UnitDigest.le_order, interleaved.filter_eq_left]
    · intro digest member
      exact Unrelated.has_path_left member
    · intro digest member
      exact unrelated.has_path_right member
  have rightSide : onSide (fun path => !hasPath left path) ordered =
      right.mergeSort UnitDigest.le := by
    rw [onSide, filter_merge_sort UnitDigest.le_order, interleaved.symm.filter_eq_left]
    · intro digest member
      rw [unrelated.has_path_right member]
      rfl
    · intro digest member
      rw [Unrelated.has_path_left member]
      rfl
  have leftGroups := groups_on_side thresholds divided orderedCoherent
  have rightGroups := groups_on_side thresholds divided.not orderedCoherent
  rw [leftSide] at leftGroups
  rw [rightSide] at rightGroups
  have bothSides := List.filter_append_perm (fun group => hasPath left group.firstPath)
    (ofOrdered Fingerprint.ofBytes thresholds ordered).groups
  rw [leftGroups, rightGroups] at bothSides
  exact bothSides.symm

/-- A unit with two statements as the body of two routines. -/
def separateDigest : UnitDigest :=
  let body := [Clone.sampleStatement 4 1, Clone.sampleStatement 5 2]
  ⟨"aa.rs", ⟨List.replicate 32 2⟩, 4, 4, [⟨body⟩, ⟨body⟩]⟩

/-- The separate unit is sorted between the two others. -/
theorem unrelated_units_reported_apart_sample :
    let mixed := separateDigest :: Clone.sampleDigests
    Unrelated Clone.sampleDigests [separateDigest] ∧
      (Detector.mk Clone.sampleThresholds mixed).finish.groups.Perm
        ((Detector.mk Clone.sampleThresholds Clone.sampleDigests).finish.groups ++
          (Detector.mk Clone.sampleThresholds [separateDigest]).finish.groups) := by
  intro mixed
  have interleaved : Interleaved Clone.sampleDigests [separateDigest] mixed :=
    .right separateDigest (.left _ (.left _ .nil))
  have unrelated : Unrelated Clone.sampleDigests [separateDigest] := by
    constructor
    · decide
    · decide
    · decide
  have coherent : Coherent Fingerprint.ofBytes (Clone.sampleDigests ++ [separateDigest]) := by
    decide +kernel
  exact ⟨unrelated, unrelated_units_reported_apart Clone.sampleThresholds interleaved unrelated
    coherent⟩

end Detector
end CodeAudit
