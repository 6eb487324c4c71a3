import CodeAudit.Proofs.Clone.SourceOrder

/-!
The report computed with every step checked. A position must exist, a span must be a non-empty run
of statements, a difference must not be negative, and a group that is measured or compared must
have a location. Whatever the hash function and the thresholds, no check fails, and the result is
the report.
-/

namespace CodeAudit
namespace Checked

/-! ## Steps -/

def minus? (left right : Nat) : Option Nat :=
  if right ≤ left then some (left - right) else none

def natural? (value : Int) : Option Nat :=
  if 0 ≤ value then some value.toNat else none

def filter? {Item : Type} (test? : Item → Option Bool) : List Item → Option (List Item)
  | [] => some []
  | item :: rest => do
      let passes ← test? item
      let kept ← filter? test? rest
      return if passes then item :: kept else kept

def length? (span : Span) : Option Nat :=
  minus? span.stop span.start

def statements? (digests : List UnitDigest) (span : Span) : Option (List StatementDigest) := do
  let digest ← digests[span.unit]?
  let body ← digest.routines[span.routine]?
  if span.start < span.stop ∧ span.stop ≤ body.statements.length then
    some ((body.statements.drop span.start).take span.length)
  else
    none

def fingerprint? (hash : RunHash) (digests : List UnitDigest) (span : Span) :
    Option Fingerprint := do
  let statements ← statements? digests span
  return hash (statements.flatMap fun statement => statement.hash.bytes)

def isLargeEnough? (digests : List UnitDigest) (thresholds : Thresholds) (span : Span) :
    Option Bool := do
  let length ← length? span
  let statements ← statements? digests span
  let tokens := statements.foldr (fun statement total => statement.tokens + total) 0
  return max thresholds.blockStatements 1 ≤ length && thresholds.blockTokens ≤ tokens

/-! ## Search -/

def windows? (hash : RunHash) (digests : List UnitDigest) : Option (List Window) :=
  (allSpans digests).mapM fun span => do
    let fingerprint ← fingerprint? hash digests span
    return ⟨span, fingerprint⟩

/-- The span of an interval on a diagonal, if its repeat begins in the routine, and if a cut makes
the span shorter without emptying it. -/
def spanOn? (diagonal : Diagonal) (interval : Nat × Nat) : Option Span := do
  let start ← natural? (interval.1 + diagonal.distance)
  let stop ← natural? (interval.2 + diagonal.distance)
  let first := diagonal.firstSpan interval
  if first.overlaps ⟨diagonal.otherUnit, diagonal.otherRoutine, start, stop⟩ then
    let cut := first.start + diagonal.distance.natAbs
    if first.start < cut ∧ cut < first.stop then some { first with stop := cut } else none
  else
    some first

def firsts? (digests : List UnitDigest) (thresholds : Thresholds) (all : List Window) :
    Option (List Span) := do
  let large ← filter? (fun window => isLargeEnough? digests thresholds window.span) all
  let found := Clone.links large
  let spans ← (Clone.diagonals found).mapM fun diagonal =>
    (Interval.merge (Clone.intervalsOn found diagonal)).mapM (spanOn? diagonal)
  let kept ← filter? (isLargeEnough? digests thresholds) spans.flatten
  return Clone.ordered kept

def occurrences? (all : List Window) (wanted : List (Fingerprint × Nat))
    (fingerprint : Fingerprint) : Option (List Span) := do
  let matching ← filter? (fun window => do
    let length ← length? window.span
    return window.fingerprint == fingerprint && wanted.contains (fingerprint, length)) all
  return Clone.spread none (matching.map fun window => window.span)

def search? (hash : RunHash) (digests : List UnitDigest) (thresholds : Thresholds) :
    Option (List Clone) := do
  let all ← windows? hash digests
  let found ← firsts? digests thresholds all
  let wanted ← found.mapM fun span => do
    let fingerprint ← fingerprint? hash digests span
    let length ← length? span
    return (fingerprint, length)
  let places ← (wanted.map Prod.fst).eraseDups.mapM fun fingerprint => do
    let spans ← occurrences? all wanted fingerprint
    return (fingerprint, spans)
  return places.filterMap fun (fingerprint, spans) => Clone.ofSpans? fingerprint spans

/-! ## Groups -/

def unitGroup? (digests : List UnitDigest) (members : List Nat) : Option DuplicateGroup := do
  let units ← members.mapM fun index => digests[index]?
  let first ← units.head?
  return ⟨.wholeUnit, first.fingerprint, none, units.map DuplicationReport.unitLocation⟩

def location? (digests : List UnitDigest) (span : Span) : Option Location := do
  let digest ← digests[span.unit]?
  let statements ← statements? digests span
  let first ← statements.head?
  let last ← statements.getLast?
  return ⟨digest.path, first.startLine, last.endLine⟩

def blockGroup? (digests : List UnitDigest) (clone : Clone) : Option DuplicateGroup := do
  let length ← length? clone.first
  let locations ← clone.spans.mapM (location? digests)
  return ⟨.subBlock, clone.fingerprint, some length, locations⟩

structure SortKey where
  rank : Nat
  path : String
  line : Nat

def SortKey.le (left right : SortKey) : Bool :=
  left.rank < right.rank || (left.rank == right.rank &&
    (left.path < right.path || (left.path == right.path && left.line ≤ right.line)))

def sortKey? (group : DuplicateGroup) : Option SortKey := do
  let first ← group.locations.head?
  return ⟨group.granularity.rank, first.path, first.startLine⟩

/-- The lines covered by a group, if it has a location and none ends more than a line before its
start. -/
def coveredLines? (group : DuplicateGroup) : Option Nat := do
  let _ ← group.locations.head?
  let counts ← group.locations.mapM fun location =>
    minus? (location.endLine + 1) location.startLine
  return counts.foldr (fun count total => count + total) 0

def sizeKey? (group : DuplicateGroup) : Option (Nat × SortKey) := do
  let covered ← coveredLines? group
  let key ← sortKey? group
  return (covered, key)

def largerFirst (left right : Nat × SortKey) : Bool :=
  right.1 < left.1 || (left.1 == right.1 && left.2.le right.2)

def sortBy? {Key : Type} (key? : DuplicateGroup → Option Key) (le : Key → Key → Bool)
    (groups : List DuplicateGroup) : Option (List DuplicateGroup) := do
  let keyed ← groups.mapM fun group => do
    let key ← key? group
    return (key, group)
  return (keyed.mergeSort fun left right => le left.1 right.1).map Prod.snd

def dropNested? (groups : List DuplicateGroup) : Option (List DuplicateGroup) := do
  let inOrder ← sortBy? sizeKey? largerFirst groups
  return inOrder.foldl DuplicateGroup.keepUnlessNested []

def ofOrdered? (hash : RunHash) (thresholds : Thresholds) (digests : List UnitDigest) :
    Option DuplicationReport := do
  let whole := DuplicationReport.wholeMembers thresholds digests
  let unitGroups ← whole.mapM (unitGroup? digests)
  let clones ← search? hash digests thresholds
  let blocks ← (clones.filter fun clone =>
    !DuplicationReport.restatesWhole whole clone.spans).mapM (blockGroup? digests)
  let kept ← dropNested? blocks
  let groups ← sortBy? sortKey? SortKey.le (unitGroups ++ kept)
  return ⟨groups⟩

def ofDigests? (hash : RunHash) (thresholds : Thresholds) (digests : List UnitDigest) :
    Option DuplicationReport :=
  ofOrdered? hash thresholds (digests.mergeSort UnitDigest.le)

/-! ## Lists -/

section Lists

variable {Item Value : Type} {items : List Item}

theorem mapm_eq_some_filter_map {make? : Item → Option Value}
    (makes : ∀ item ∈ items, ∃ value, make? item = some value) :
    items.mapM make? = some (items.filterMap make?) := by
  induction items with
  | nil => rfl
  | cons item rest ih =>
      obtain ⟨value, made⟩ := makes item List.mem_cons_self
      rw [List.mapM_cons, List.filterMap_cons_some made, made,
        ih fun other member => makes other (List.mem_cons_of_mem item member)]
      rfl

theorem mapm_eq_some_map {make? : Item → Option Value} (value : Item → Value)
    (makes : ∀ item ∈ items, make? item = some (value item)) :
    items.mapM make? = some (items.map value) := by
  rw [mapm_eq_some_filter_map fun item member => ⟨value item, makes item member⟩,
    List.filterMap_congr makes, List.filterMap_eq_map']

theorem filter?_eq_some {test? : Item → Option Bool} {passes : Item → Bool}
    (answers : ∀ item ∈ items, test? item = some (passes item)) :
    filter? test? items = some (items.filter passes) := by
  induction items with
  | nil => rfl
  | cons item rest ih =>
      rw [filter?, answers item List.mem_cons_self,
        ih fun other member => answers other (List.mem_cons_of_mem item member), List.filter_cons]
      rfl

end Lists

theorem sort_by?_eq_some {Key : Type} {key? : DuplicateGroup → Option Key} {le : Key → Key → Bool}
    {key : DuplicateGroup → Key} {order : DuplicateGroup → DuplicateGroup → Bool}
    {groups : List DuplicateGroup} (keys : ∀ group ∈ groups, key? group = some (key group))
    (compared : ∀ left right, le (key left) (key right) = order left right) :
    sortBy? key? le groups = some (groups.mergeSort order) := by
  have keyed : (groups.mapM fun group => do
      let found ← key? group
      return (found, group)) = some (groups.map fun group => (key group, group)) := by
    apply mapm_eq_some_map fun group => (key group, group)
    intro group member
    rw [keys group member]
    rfl
  rw [sortBy?, keyed]
  simp only [Option.bind_eq_bind, Option.bind_some, Option.pure_def, merge_sort_map, compared,
    List.map_map]
  exact congrArg some (List.map_id _)

/-! ## Spans -/

section Spans

variable {digests : List UnitDigest} {span : Span}

theorem length?_of_proper (proper : span.start < span.stop) : length? span = some span.length :=
  if_pos (Nat.le_of_lt proper)

theorem exists_routine_of_window (window : IsWindow digests span) :
    ∃ digest body, digests[span.unit]? = some digest ∧
      digest.routines[span.routine]? = some body ∧
      routineStatements digests span.unit span.routine = body.statements := by
  obtain ⟨digest, inUnit⟩ := exists_digest_of_window window
  cases inRoutine : digest.routines[span.routine]? with
  | none =>
      obtain ⟨proper, inside⟩ := window
      simp only [routineStatements, inUnit, inRoutine, List.length_nil] at inside
      omega
  | some body =>
      refine ⟨digest, body, inUnit, inRoutine, ?_⟩
      simp only [routineStatements, inUnit, inRoutine]

theorem statements?_of_window (window : IsWindow digests span) :
    statements? digests span = some (spanStatements digests span) := by
  obtain ⟨digest, body, inUnit, inRoutine, same⟩ := exists_routine_of_window window
  have bounds : span.start < span.stop ∧ span.stop ≤ body.statements.length := same ▸ window
  simp only [statements?, inUnit, inRoutine, Option.bind_eq_bind, Option.bind_some]
  rw [if_pos bounds, spanStatements, same]

theorem fingerprint?_of_window (hash : RunHash) (window : IsWindow digests span) :
    fingerprint? hash digests span = some (spanFingerprint hash digests span) := by
  rw [fingerprint?, statements?_of_window window]
  rfl

theorem is_large_enough?_of_window (thresholds : Thresholds) (window : IsWindow digests span) :
    isLargeEnough? digests thresholds span = some (isLargeEnough digests thresholds span) := by
  rw [isLargeEnough?, length?_of_proper window.1, statements?_of_window window]
  rfl

end Spans

/-! ## Search under any hash function -/

/-- What is known of an interval that a link puts on a diagonal. Within one routine the repeat
begins where the first occurrence has ended. -/
structure LinkedOn (digests : List UnitDigest) (diagonal : Diagonal) (piece : Nat × Nat) :
    Prop where
  window : IsWindow digests (diagonal.firstSpan piece)
  reaches : 0 ≤ piece.1 + diagonal.distance
  apart : diagonal.firstUnit = diagonal.otherUnit →
    diagonal.firstRoutine = diagonal.otherRoutine → piece.2 ≤ piece.1 + diagonal.distance

/-- What is left of `LinkedOn` for a union of intervals: it is a run of statements, its repeat
begins in a routine, and where the two overlap a cut to the distance shortens it and leaves a part
of it. -/
structure SafeOn (digests : List UnitDigest) (diagonal : Diagonal) (joined : Nat × Nat) :
    Prop where
  window : IsWindow digests (diagonal.firstSpan joined)
  reaches : 0 ≤ joined.1 + diagonal.distance
  cut : (diagonal.firstSpan joined).overlaps (diagonal.otherSpan joined) = true →
    joined.1 < joined.1 + diagonal.distance.natAbs ∧
      joined.1 + diagonal.distance.natAbs < joined.2

section Search

variable {hash : RunHash} {digests : List UnitDigest} {thresholds : Thresholds}
  {diagonal : Diagonal}

/-- Of two windows of one routine that do not overlap, the later begins no sooner than the earlier
ends. Neither their fingerprints nor their lengths have to be equal. -/
theorem linked_on_between {first other : Span} (window : IsWindow digests first)
    (otherWindow : IsWindow digests other) (inOrder : first = other ∨ first.Before other)
    (apart : first.overlaps other = false) :
    LinkedOn digests (Diagonal.between first other) (first.start, first.stop) where
  window := window
  reaches := by
    simp only [Diagonal.between]
    omega
  apart := by
    have separate := (Span.apart_iff first other).mp apart
    have proper := window.1
    have otherProper := otherWindow.1
    intro sameUnit sameRoutine
    simp only [Diagonal.between] at sameUnit sameRoutine ⊢
    rcases inOrder with rfl | before
    · omega
    · simp only [Span.Before, Span.Precedes] at before
      omega

theorem linked_on_of_mem {piece : Nat × Nat} (member : piece ∈
    Clone.intervalsOn (Clone.links (Clone.largeWindows hash digests thresholds)) diagonal) :
    LinkedOn digests diagonal piece := by
  obtain ⟨link, inDiagonal, rfl⟩ := List.mem_map.mp member
  obtain ⟨isLink, same⟩ := List.mem_filter.mp inDiagonal
  obtain ⟨here, isLarge, linked⟩ := List.mem_filterMap.mp isLink
  obtain ⟨first, found, joined⟩ := Option.bind_eq_some_iff.mp linked
  have inOrder := find?_first (Clone.large_windows_ordered hash digests thresholds) found isLarge
    (beq_self_eq_true _)
  have firstWindow := (Clone.mem_large_windows.mp (List.mem_of_find?_eq_some found)).1
  have otherWindow := (Clone.mem_large_windows.mp isLarge).1
  split at joined
  · cases joined
  · rename_i apart
    rw [← eq_of_beq same, ← Option.some.inj joined]
    exact linked_on_between firstWindow otherWindow (inOrder.imp_left (congrArg Window.span))
      (Bool.eq_false_of_not_eq_true apart)

/-- A union of intervals begins with one of them and ends with one of them, and that is all that is
needed of the joining. -/
theorem safe_on_of_is_union_of {pieces : List (Nat × Nat)} {joined : Nat × Nat}
    (linked : ∀ piece ∈ pieces, LinkedOn digests diagonal piece)
    (union : Interval.IsUnionOf pieces joined) : SafeOn digests diagonal joined := by
  obtain ⟨opening, isOpening, sameStart, within⟩ := union.opens
  obtain ⟨closing, isClosing, sameStop, _⟩ := union.closes
  obtain ⟨⟨openProper, _⟩, reaches, apart⟩ := linked opening isOpening
  obtain ⟨_, closeInside⟩ := (linked closing isClosing).window
  simp only [Diagonal.firstSpan] at openProper closeInside
  refine ⟨⟨?_, ?_⟩, ?_, ?_⟩
  · simp only [Diagonal.firstSpan]
    omega
  · simp only [Diagonal.firstSpan]
    omega
  · omega
  · intro overlapping
    obtain ⟨sameUnit, sameRoutine, _, upper⟩ := (Span.overlaps_iff _ _).mp overlapping
    have ahead := apart sameUnit sameRoutine
    simp only [Diagonal.firstSpan, Diagonal.otherSpan] at upper
    omega

theorem SafeOn.span_on? {joined : Nat × Nat} (safe : SafeOn digests diagonal joined) :
    spanOn? diagonal joined = some (Clone.spanOn diagonal joined) := by
  have proper := safe.window.1
  have reaches := safe.reaches
  simp only [Diagonal.firstSpan] at proper
  have reachesEnd : 0 ≤ joined.2 + diagonal.distance := by omega
  refine Option.bind_eq_some_iff.mpr ⟨_, if_pos reaches, ?_⟩
  refine Option.bind_eq_some_iff.mpr ⟨_, if_pos reachesEnd, ?_⟩
  by_cases overlapping :
      (diagonal.firstSpan joined).overlaps (diagonal.otherSpan joined) = true
  · have isCut : Clone.spanOn diagonal joined = _ := if_pos overlapping
    rw [isCut]
    exact (if_pos overlapping).trans (if_pos (safe.cut overlapping))
  · have isWhole : Clone.spanOn diagonal joined = _ := if_neg overlapping
    rw [isWhole]
    exact if_neg overlapping

theorem SafeOn.window_span_on {joined : Nat × Nat} (safe : SafeOn digests diagonal joined) :
    IsWindow digests (Clone.spanOn diagonal joined) := by
  rw [Clone.spanOn]
  split
  · rename_i overlapping
    obtain ⟨nonempty, shorter⟩ := safe.cut overlapping
    exact ⟨nonempty, Nat.le_trans (Nat.le_of_lt shorter) safe.window.2⟩
  · exact safe.window

theorem safe_on_of_mem_merge {joined : Nat × Nat} (member : joined ∈ Interval.merge
    (Clone.intervalsOn (Clone.links (Clone.largeWindows hash digests thresholds)) diagonal)) :
    SafeOn digests diagonal joined :=
  safe_on_of_is_union_of (fun _ => linked_on_of_mem) (Interval.merge_is_union_of _ joined member)

theorem window_of_mem_spans_on {span : Span} (member : span ∈
    Clone.spansOn (Clone.links (Clone.largeWindows hash digests thresholds)) diagonal) :
    IsWindow digests span := by
  obtain ⟨joined, isJoined, rfl⟩ := List.mem_map.mp member
  exact (safe_on_of_mem_merge isJoined).window_span_on

theorem windows?_eq_some (hash : RunHash) (digests : List UnitDigest) :
    windows? hash digests = some (Clone.windows hash digests) := by
  apply mapm_eq_some_map
  intro span member
  rw [fingerprint?_of_window hash (mem_all_spans.mp member)]
  rfl

theorem window_of_mem_windows {window : Window} (member : window ∈ Clone.windows hash digests) :
    IsWindow digests window.span := by
  obtain ⟨span, listed, rfl⟩ := List.mem_map.mp member
  exact mem_all_spans.mp listed

theorem firsts?_eq_some (hash : RunHash) (digests : List UnitDigest) (thresholds : Thresholds) :
    firsts? digests thresholds (Clone.windows hash digests) =
      some (Clone.firsts digests thresholds (Clone.windows hash digests)) := by
  have large : filter? (fun window => isLargeEnough? digests thresholds window.span)
      (Clone.windows hash digests) = some (Clone.largeWindows hash digests thresholds) :=
    filter?_eq_some fun window member =>
      is_large_enough?_of_window thresholds (window_of_mem_windows member)
  let found := Clone.links (Clone.largeWindows hash digests thresholds)
  have spans : ((Clone.diagonals found).mapM fun diagonal =>
      (Interval.merge (Clone.intervalsOn found diagonal)).mapM (spanOn? diagonal)) =
        some ((Clone.diagonals found).map (Clone.spansOn found)) :=
    mapm_eq_some_map _ fun diagonal _ => mapm_eq_some_map _ fun joined isJoined =>
      (safe_on_of_mem_merge isJoined).span_on?
  have kept : filter? (isLargeEnough? digests thresholds)
      ((Clone.diagonals found).map (Clone.spansOn found)).flatten =
        some (((Clone.diagonals found).flatMap (Clone.spansOn found)).filter
          (isLargeEnough digests thresholds)) := by
    apply filter?_eq_some
    intro span member
    obtain ⟨_, isPart, listed⟩ := List.mem_flatten.mp member
    obtain ⟨diagonal, _, rfl⟩ := List.mem_map.mp isPart
    exact is_large_enough?_of_window thresholds (window_of_mem_spans_on listed)
  refine Option.bind_eq_some_iff.mpr ⟨_, large, ?_⟩
  refine Option.bind_eq_some_iff.mpr ⟨_, spans, ?_⟩
  exact Option.bind_eq_some_iff.mpr ⟨_, kept, rfl⟩

theorem window_of_mem_firsts {span : Span}
    (member : span ∈ Clone.firsts digests thresholds (Clone.windows hash digests)) :
    IsWindow digests span := by
  rw [Clone.firsts, Clone.mem_ordered, List.mem_filter, List.mem_flatMap] at member
  obtain ⟨⟨diagonal, _, listed⟩, _⟩ := member
  exact window_of_mem_spans_on listed

theorem occurrences?_eq_some (hash : RunHash) (digests : List UnitDigest)
    (wanted : List (Fingerprint × Nat)) (fingerprint : Fingerprint) :
    occurrences? (Clone.windows hash digests) wanted fingerprint =
      some (Clone.occurrences (Clone.windows hash digests) wanted fingerprint) := by
  refine Option.bind_eq_some_iff.mpr ⟨_, filter?_eq_some fun window member => ?_, rfl⟩
  rw [length?_of_proper (window_of_mem_windows member).1]
  rfl

theorem search?_eq_some (hash : RunHash) (digests : List UnitDigest) (thresholds : Thresholds) :
    search? hash digests thresholds = some (Clone.search hash digests thresholds) := by
  refine Option.bind_eq_some_iff.mpr ⟨_, windows?_eq_some hash digests, ?_⟩
  refine Option.bind_eq_some_iff.mpr ⟨_, firsts?_eq_some hash digests thresholds, ?_⟩
  refine Option.bind_eq_some_iff.mpr ⟨_, mapm_eq_some_map
    (fun span => (spanFingerprint hash digests span, span.length)) fun span member => ?_, ?_⟩
  · have window := window_of_mem_firsts member
    rw [fingerprint?_of_window hash window, length?_of_proper window.1]
    rfl
  let wanted := (Clone.firsts digests thresholds (Clone.windows hash digests)).map fun span =>
    (spanFingerprint hash digests span, span.length)
  refine Option.bind_eq_some_iff.mpr ⟨_, mapm_eq_some_map (fun fingerprint =>
    (fingerprint, Clone.occurrences (Clone.windows hash digests) wanted fingerprint))
      fun fingerprint _ => ?_, ?_⟩
  · rw [occurrences?_eq_some]
    rfl
  · exact congrArg some List.filterMap_map

end Search

/-! ## Groups under any hash function -/

/-- No statement begins after the end of itself or of a later one. -/
def LinesInOrder (statements : List StatementDigest) : Prop :=
  (∀ statement ∈ statements, statement.startLine ≤ statement.endLine) ∧
    statements.Pairwise fun earlier later => earlier.startLine ≤ later.endLine

instance (statements : List StatementDigest) : Decidable (LinesInOrder statements) :=
  inferInstanceAs (Decidable (_ ∧ _))

structure Measurable (group : DuplicateGroup) : Prop where
  located : group.locations ≠ []
  lines : ∀ location ∈ group.locations, location.startLine ≤ location.endLine + 1

def sortKey (group : DuplicateGroup) : SortKey :=
  ⟨group.granularity.rank, group.firstPath, group.firstLine⟩

section Groups

variable {hash : RunHash} {digests : List UnitDigest} {thresholds : Thresholds}
  {group : DuplicateGroup}

theorem sort_key?_of_located (located : group.locations ≠ []) :
    sortKey? group = some (sortKey group) := by
  obtain ⟨first, rest, locations⟩ := List.exists_cons_of_ne_nil located
  simp only [sortKey?, sortKey, DuplicateGroup.firstPath, DuplicateGroup.firstLine, locations]
  rfl

theorem Measurable.covered_lines? (measurable : Measurable group) :
    coveredLines? group = some group.coveredLines := by
  obtain ⟨first, rest, locations⟩ := List.exists_cons_of_ne_nil measurable.located
  have isHead : group.locations.head? = some first := by rw [locations, List.head?_cons]
  refine Option.bind_eq_some_iff.mpr ⟨first, isHead, ?_⟩
  refine Option.bind_eq_some_iff.mpr ⟨_, mapm_eq_some_map _ fun location listed =>
    if_pos (measurable.lines location listed), ?_⟩
  exact congrArg some List.foldr_map

theorem drop_nested?_eq_some {groups : List DuplicateGroup}
    (measurable : ∀ group ∈ groups, Measurable group) :
    dropNested? groups = some (DuplicateGroup.dropNested groups) := by
  have keys : ∀ group ∈ groups,
      sizeKey? group = some (group.coveredLines, sortKey group) := by
    intro group member
    rw [sizeKey?, (measurable group member).covered_lines?,
      sort_key?_of_located (measurable group member).located]
    rfl
  exact Option.bind_eq_some_iff.mpr ⟨_, sort_by?_eq_some keys fun _ _ => rfl, rfl⟩

theorem unit_group?_of_mem {members : List Nat}
    (isWhole : members ∈ DuplicationReport.wholeMembers thresholds digests) :
    ∃ group, unitGroup? digests members = some group ∧
      DuplicationReport.wholeGroup? digests members = some group := by
  obtain ⟨group, made, _⟩ := DuplicationReport.whole_group?_of_mem_whole_members isWhole
  refine ⟨group, ?_, made⟩
  obtain ⟨first, isHead, rfl⟩ := Option.map_eq_some_iff.mp made
  obtain ⟨print, rfl, _⟩ := DuplicationReport.mem_whole_members.mp isWhole
  refine Option.bind_eq_some_iff.mpr ⟨_, mapm_eq_some_filter_map fun index member => ?_, ?_⟩
  · obtain ⟨digest, found, _⟩ := DuplicationReport.mem_members_of.mp member
    exact ⟨digest, found⟩
  · exact Option.bind_eq_some_iff.mpr ⟨first, isHead, rfl⟩

theorem unit_groups_eq_some (thresholds : Thresholds) (digests : List UnitDigest) :
    (DuplicationReport.wholeMembers thresholds digests).mapM (unitGroup? digests) =
      some (DuplicationReport.wholeGroups thresholds digests) := by
  have same : ∀ members ∈ DuplicationReport.wholeMembers thresholds digests,
      unitGroup? digests members = DuplicationReport.wholeGroup? digests members := by
    intro members isWhole
    obtain ⟨group, made, expected⟩ := unit_group?_of_mem isWhole
    exact made.trans expected.symm
  rw [mapm_eq_some_filter_map, List.filterMap_congr same]
  · rfl
  · intro members isWhole
    obtain ⟨group, made, _⟩ := unit_group?_of_mem isWhole
    exact ⟨group, made⟩

theorem endpoints_of_window {span : Span} (window : IsWindow digests span) :
    ∃ first last, (spanStatements digests span).head? = some first ∧
      (spanStatements digests span).getLast? = some last := by
  have count := span_statements_length window
  have proper := window.1
  cases statements : spanStatements digests span with
  | nil =>
      rw [statements, List.length_nil, Span.length] at count
      omega
  | cons first rest =>
      exact ⟨first, _, List.head?_cons, List.getLast?_eq_some_getLast (List.cons_ne_nil first rest)⟩

theorem location?_of_window {span : Span} (window : IsWindow digests span) :
    location? digests span = some (DuplicationReport.spanLocation digests span) := by
  obtain ⟨digest, inUnit⟩ := exists_digest_of_window window
  obtain ⟨first, last, isFirst, isLast⟩ := endpoints_of_window window
  refine Option.bind_eq_some_iff.mpr ⟨digest, inUnit, ?_⟩
  refine Option.bind_eq_some_iff.mpr ⟨_, statements?_of_window window, ?_⟩
  refine Option.bind_eq_some_iff.mpr ⟨first, isFirst, ?_⟩
  refine Option.bind_eq_some_iff.mpr ⟨last, isLast, ?_⟩
  simp only [DuplicationReport.spanLocation, spanLines, inUnit, isFirst, isLast]
  rfl

theorem block_group?_eq_some {clone : Clone}
    (found : clone ∈ Clone.search hash digests thresholds) :
    blockGroup? digests clone = some (DuplicationReport.blockGroup digests clone) := by
  have firstWindow := Clone.window_of_mem_spans found List.mem_cons_self
  refine Option.bind_eq_some_iff.mpr ⟨_, length?_of_proper firstWindow.1, ?_⟩
  exact Option.bind_eq_some_iff.mpr ⟨_, mapm_eq_some_map _ fun span listed =>
    location?_of_window (Clone.window_of_mem_spans found listed), rfl⟩

/-! ## Lines -/

theorem LinesInOrder.sublist {part statements : List StatementDigest}
    (inOrder : LinesInOrder statements) (kept : part.Sublist statements) : LinesInOrder part :=
  ⟨fun statement member => inOrder.1 statement (kept.subset member), inOrder.2.sublist kept⟩

theorem LinesInOrder.endpoints {statements : List StatementDigest} {first last : StatementDigest}
    (inOrder : LinesInOrder statements) (isFirst : statements.head? = some first)
    (isLast : statements.getLast? = some last) : first.startLine ≤ last.endLine := by
  cases statements with
  | nil => cases isFirst
  | cons head rest =>
      cases isFirst
      rcases List.mem_cons.mp (List.mem_of_getLast? isLast) with rfl | later
      · exact inOrder.1 last List.mem_cons_self
      · exact (List.pairwise_cons.mp inOrder.2).1 last later

/-- The lines of every routine are in order. -/
def AllInOrder (digests : List UnitDigest) : Prop :=
  ∀ digest ∈ digests, ∀ body ∈ digest.routines, LinesInOrder body.statements

instance (digests : List UnitDigest) : Decidable (AllInOrder digests) :=
  inferInstanceAs (Decidable (∀ digest ∈ digests, ∀ body ∈ digest.routines,
    LinesInOrder body.statements))

theorem span_location_lines (inOrder : AllInOrder digests) {span : Span}
    (window : IsWindow digests span) :
    (DuplicationReport.spanLocation digests span).startLine ≤
      (DuplicationReport.spanLocation digests span).endLine := by
  obtain ⟨digest, body, inUnit, inRoutine, same⟩ := exists_routine_of_window window
  obtain ⟨first, last, isFirst, isLast⟩ := endpoints_of_window window
  have routine := inOrder digest (List.mem_of_getElem? inUnit) body (List.mem_of_getElem? inRoutine)
  have part : (spanStatements digests span).Sublist body.statements := by
    rw [spanStatements, same]
    exact (List.take_sublist _ _).trans (List.drop_sublist _ _)
  have lines := (routine.sublist part).endpoints isFirst isLast
  simpa only [DuplicationReport.spanLocation, spanLines, isFirst, isLast, Option.map_some,
    Option.getD_some] using lines

theorem measurable_block_group (inOrder : AllInOrder digests) {clone : Clone}
    (found : clone ∈ Clone.search hash digests thresholds) :
    Measurable (DuplicationReport.blockGroup digests clone) where
  located := List.cons_ne_nil _ _
  lines := by
    intro location listed
    obtain ⟨span, inClone, rfl⟩ := List.mem_map.mp listed
    exact Nat.le_succ_of_le
      (span_location_lines inOrder (Clone.window_of_mem_spans found inClone))

theorem of_ordered?_eq_some (hash : RunHash) (thresholds : Thresholds)
    (inOrder : AllInOrder digests) : ofOrdered? hash thresholds digests =
      some (DuplicationReport.ofOrdered hash thresholds digests) := by
  refine Option.bind_eq_some_iff.mpr ⟨_, unit_groups_eq_some thresholds digests, ?_⟩
  refine Option.bind_eq_some_iff.mpr ⟨_, search?_eq_some hash digests thresholds, ?_⟩
  refine Option.bind_eq_some_iff.mpr ⟨_, mapm_eq_some_map _ fun clone shown =>
    block_group?_eq_some (List.mem_of_mem_filter shown), ?_⟩
  refine Option.bind_eq_some_iff.mpr ⟨_, drop_nested?_eq_some fun group listed => ?_, ?_⟩
  · obtain ⟨clone, shown, rfl⟩ := List.mem_map.mp listed
    exact measurable_block_group inOrder (List.mem_of_mem_filter shown)
  · refine Option.bind_eq_some_iff.mpr ⟨_, sort_by?_eq_some (fun group listed =>
      sort_key?_of_located ?_) fun _ _ => rfl, rfl⟩
    apply DuplicationReport.locations_ne_nil
    rw [DuplicationReport.groups_eq]
    exact List.mem_mergeSort.mpr listed

theorem measurable_of_mem_groups (inOrder : AllInOrder digests)
    (member : group ∈ (DuplicationReport.ofOrdered hash thresholds digests).groups) :
    Measurable group := by
  refine ⟨DuplicationReport.locations_ne_nil member, ?_⟩
  rcases DuplicationReport.class_or_block member with ⟨print, _, rfl⟩ | ⟨clone, found, rfl⟩
  · intro location listed
    obtain ⟨digest, _, rfl⟩ := List.mem_map.mp listed
    exact Nat.le_add_left 1 digest.endLine
  · exact (measurable_block_group inOrder found).lines

/-- No check fails, for any hash function and any thresholds; `Detector.finish` is the case of
`Fingerprint.ofBytes`. `SafeOn` is said of all that the links of a diagonal make together, also of
what is then found too small. -/
theorem no_check_fails (hash : RunHash) (thresholds : Thresholds) {digests : List UnitDigest}
    (inOrder : AllInOrder digests) :
    let visited := digests.mergeSort UnitDigest.le
    let report := DuplicationReport.ofDigests hash thresholds digests
    ofDigests? hash thresholds digests = some report ∧
      (∀ diagonal, ∀ joined ∈ Interval.merge (Clone.intervalsOn
        (Clone.links (Clone.largeWindows hash visited thresholds)) diagonal),
          SafeOn visited diagonal joined ∧ IsWindow visited (Clone.spanOn diagonal joined)) ∧
      (∀ clone ∈ Clone.search hash visited thresholds,
        (∀ span ∈ clone.spans, IsWindow visited span) ∧
          Measurable (DuplicationReport.blockGroup visited clone)) ∧
      ∀ group ∈ report.groups, Measurable group := by
  intro visited report
  have sorted : AllInOrder visited := fun digest member =>
    inOrder digest (List.mem_mergeSort.mp member)
  refine ⟨of_ordered?_eq_some hash thresholds sorted, ?_, ?_, ?_⟩
  · intro diagonal joined isJoined
    have safe := safe_on_of_mem_merge isJoined
    exact ⟨safe, safe.window_span_on⟩
  · intro clone found
    exact ⟨fun span listed => Clone.window_of_mem_spans found listed,
      measurable_block_group sorted found⟩
  · intro group member
    exact measurable_of_mem_groups sorted member

/-- Two contents that take turns in one routine. -/
def alternating : List UnitDigest :=
  [⟨"a.rs", ⟨[0]⟩, 6, 6, [⟨(List.range 6).map fun index =>
    ⟨⟨[UInt8.ofNat (index % 2)]⟩, 1, index + 1, index + 1⟩⟩]⟩]

/-- All runs have one fingerprint, though there are two contents, and nothing is too small. -/
theorem no_check_fails_alternating :
    AllInOrder alternating ∧
      spanHashes alternating ⟨0, 0, 0, 1⟩ ≠ spanHashes alternating ⟨0, 0, 1, 2⟩ ∧
      ofDigests? (fun _ => ⟨[]⟩) ⟨0, 0, 0⟩ alternating =
        some (DuplicationReport.ofDigests (fun _ => ⟨[]⟩) ⟨0, 0, 0⟩ alternating) := by
  have inOrder : AllInOrder alternating := by decide
  exact ⟨inOrder, by decide, (no_check_fails (fun _ => ⟨[]⟩) ⟨0, 0, 0⟩ inOrder).1⟩

end Groups
end Checked
end CodeAudit
