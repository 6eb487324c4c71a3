import CodeAudit.Proofs.Clone.Diagonal

/-!
Maximal spans. The intervals joined on a diagonal, cut back where they would overlap their own
repeat, are large first occurrences with a repeat apart from them. One that is not cut and does not
touch its repeat cannot be made longer at either end.
-/

namespace CodeAudit

def SameBefore (digests : List UnitDigest) (left right : Span) : Prop :=
  0 < left.start ∧ 0 < right.start ∧ ∃ print,
    hashAt? digests left.unit left.routine (left.start - 1) = some print ∧
      hashAt? digests right.unit right.routine (right.start - 1) = some print

def SameAfter (digests : List UnitDigest) (left right : Span) : Prop :=
  ∃ print, hashAt? digests left.unit left.routine left.stop = some print ∧
    hashAt? digests right.unit right.routine right.stop = some print

theorem lt_length_of_hash_at? {digests : List UnitDigest} {unit routine position : Nat}
    {print : Fingerprint} (present : hashAt? digests unit routine position = some print) :
    position < (routineStatements digests unit routine).length := by
  obtain ⟨statement, found, _⟩ := Option.map_eq_some_iff.mp present
  exact (List.getElem?_eq_some_iff.mp found).1

namespace Clone

def joinedOn (hash : RunHash) (digests : List UnitDigest) (thresholds : Thresholds)
    (diagonal : Diagonal) : List (Nat × Nat) :=
  Interval.merge (intervalsOn (links (largeWindows hash digests thresholds)) diagonal)

section Joined

variable {hash : RunHash} {digests : List UnitDigest} {thresholds : Thresholds}
  {diagonal : Diagonal} {joined : Nat × Nat}

theorem agrees_on_of_mem_joined_on (coherent : Coherent hash digests)
    (member : joined ∈ joinedOn hash digests thresholds diagonal) :
    AgreesOn digests thresholds diagonal joined := by
  have union := Interval.merge_is_union_of _ joined member
  obtain ⟨opening, inOpening, begins, opensInside⟩ := union.opens
  obtain ⟨closing, inClosing, ends, closesInside⟩ := union.closes
  have opens := (mem_intervals_on coherent).mp inOpening
  have closes := (mem_intervals_on coherent).mp inClosing
  have opensReach := opens.reaches
  have opensFirst := opens.repeated.least.window
  have closesFirst := closes.repeated.least.window
  have closesOther := closes.repeated.window
  simp only [IsWindow, Diagonal.firstSpan, Diagonal.otherSpan] at opensFirst closesFirst closesOther
  have reaches : 0 ≤ joined.1 + diagonal.distance := by omega
  have window : IsWindow digests (diagonal.firstSpan joined) := by
    simp only [IsWindow, Diagonal.firstSpan]
    omega
  have inside : (diagonal.firstSpan opening).Within (diagonal.firstSpan joined) :=
    ⟨rfl, rfl, Nat.le_of_eq begins.symm, opensInside⟩
  refine ⟨reaches, is_first_of_within opens.repeated.least window inside, ?_, ?_, ?_⟩
  · simp only [IsWindow, Diagonal.otherSpan]
    omega
  · -- Each position is covered by a link, and there the two routines agree.
    rw [same_on_diagonal_iff reaches (by omega)]
    intro position lower upper
    obtain ⟨piece, inPiece, after, before⟩ := union.filled position lower upper
    have pieceOn := (mem_intervals_on coherent).mp inPiece
    have agree := (same_on_diagonal_iff pieceOn.reaches (by omega)).mp pieceOn.repeated.same
    exact agree position after before
  · exact large_of_within inside (Nat.le_of_lt opens.repeated.least.window.1) opens.repeated.large

/-- In one routine a repeat lies at least the length of its interval ahead. -/
theorem stop_le_of_repeats_on {interval : Nat × Nat}
    (repeats : RepeatsOn digests thresholds diagonal interval)
    (sameUnit : diagonal.firstUnit = diagonal.otherUnit)
    (sameRoutine : diagonal.firstRoutine = diagonal.otherRoutine) :
    (interval.2 : Int) ≤ interval.1 + diagonal.distance := by
  have reaches := repeats.reaches
  have proper := repeats.repeated.least.window.1
  have precedes := repeats.repeated.precedes
  have apart := (Span.apart_iff _ _).mp repeats.repeated.apart
  simp only [Diagonal.firstSpan, Diagonal.otherSpan, Span.Precedes] at *
  omega

theorem span_on_of_apart
    (apart : (diagonal.firstSpan joined).overlaps (diagonal.otherSpan joined) = false) :
    spanOn diagonal joined = diagonal.firstSpan joined :=
  if_neg (ne_true_of_eq_false apart)

theorem span_on_of_overlaps
    (overlaps : (diagonal.firstSpan joined).overlaps (diagonal.otherSpan joined) = true) :
    spanOn diagonal joined = (diagonal.firstSpan joined).part 0 diagonal.distance.natAbs :=
  if_pos overlaps

/-- Where a joined interval overlaps its repeat, the distance is at least as long as one of its
links and shorter than the interval. -/
theorem distance_of_overlaps (coherent : Coherent hash digests)
    (member : joined ∈ joinedOn hash digests thresholds diagonal)
    (overlaps : (diagonal.firstSpan joined).overlaps (diagonal.otherSpan joined) = true) :
    diagonal.firstUnit = diagonal.otherUnit ∧ diagonal.firstRoutine = diagonal.otherRoutine ∧
      0 < diagonal.distance ∧ joined.1 + diagonal.distance < joined.2 ∧
      ∃ opening, RepeatsOn digests thresholds diagonal opening ∧ opening.1 = joined.1 ∧
        (opening.2 : Int) ≤ joined.1 + diagonal.distance := by
  obtain ⟨sameUnit, sameRoutine, _, overlap⟩ := (Span.overlaps_iff _ _).mp overlaps
  obtain ⟨opening, inOpening, begins, _⟩ := (Interval.merge_is_union_of _ joined member).opens
  have opens := (mem_intervals_on coherent).mp inOpening
  have ahead := stop_le_of_repeats_on opens sameUnit sameRoutine
  have proper := opens.repeated.least.window.1
  simp only [Diagonal.firstSpan, Diagonal.otherSpan] at overlap proper
  refine ⟨sameUnit, sameRoutine, ?_, ?_, opening, opens, begins, ?_⟩ <;> omega

/-- The first occurrences inside a joined interval begin before its repeat does: what lies further
on has come before, one distance back. -/
theorem start_lt_of_overlaps (coherent : Coherent hash digests)
    (member : joined ∈ joinedOn hash digests thresholds diagonal)
    (overlaps : (diagonal.firstSpan joined).overlaps (diagonal.otherSpan joined) = true)
    {interval : Nat × Nat} (least : IsFirst digests (diagonal.firstSpan interval))
    (inside : interval.2 ≤ joined.2) :
    (interval.1 : Int) < joined.1 + diagonal.distance := by
  obtain ⟨sameUnit, sameRoutine, positive, _, _⟩ := distance_of_overlaps coherent member overlaps
  have agrees := agrees_on_of_mem_joined_on coherent member
  have proper := least.window
  simp only [IsWindow, Diagonal.firstSpan] at proper
  by_contra late
  let back : Nat × Nat :=
    (interval.1 - diagonal.distance.toNat, interval.2 - diagonal.distance.toNat)
  have shifted : diagonal.otherSpan back = diagonal.firstSpan interval := by
    simp only [back, Diagonal.firstSpan, Diagonal.otherSpan, sameUnit, sameRoutine, Span.mk.injEq,
      true_and]
    omega
  have joinedProper : joined.1 < joined.2 := agrees.least.window.1
  have reaches : 0 ≤ back.1 + diagonal.distance := by omega
  have joinedAgree := (same_on_diagonal_iff agrees.reaches (Nat.le_of_lt joinedProper)).mp
    agrees.same
  have backProper : back.1 ≤ back.2 := by
    simp only [back]
    omega
  have same : spanHashes digests (diagonal.firstSpan back) =
      spanHashes digests (diagonal.otherSpan back) := by
    rw [same_on_diagonal_iff reaches backProper]
    intro position lower upper
    simp only [back] at lower upper
    exact joinedAgree position (by omega) (by omega)
  have window : IsWindow digests (diagonal.firstSpan back) := by
    simp only [IsWindow, Diagonal.firstSpan, back]
    omega
  refine least.least _ window (shifted ▸ same) ?_
  refine Or.inr ⟨rfl, Or.inr ⟨rfl, ?_⟩⟩
  simp only [Diagonal.firstSpan, back]
  omega

/-- The cut span repeats right behind itself. -/
theorem repeats_of_overlaps (coherent : Coherent hash digests)
    (member : joined ∈ joinedOn hash digests thresholds diagonal)
    (overlaps : (diagonal.firstSpan joined).overlaps (diagonal.otherSpan joined) = true) :
    Repeats digests thresholds (spanOn diagonal joined)
      ((diagonal.otherSpan joined).part 0 diagonal.distance.natAbs) := by
  obtain ⟨sameUnit, sameRoutine, positive, shorter, opening, opens, begins, ends⟩ :=
    distance_of_overlaps coherent member overlaps
  have agrees := agrees_on_of_mem_joined_on coherent member
  have reaches := agrees.reaches
  have bound : 0 + diagonal.distance.natAbs ≤ (diagonal.firstSpan joined).length := by
    simp only [Diagonal.firstSpan, Span.length]
    omega
  have equalLength := length_eq_of_same_content agrees.least.window agrees.window agrees.same
  have nonempty : 0 < diagonal.distance.natAbs := by omega
  have inside : (diagonal.firstSpan opening).Within
      ((diagonal.firstSpan joined).part 0 diagonal.distance.natAbs) := by
    refine ⟨rfl, rfl, ?_, ?_⟩ <;> simp only [Diagonal.firstSpan, Span.part] <;> omega
  rw [span_on_of_overlaps overlaps]
  refine ⟨?_, ?_, ?_, ?_, ?_⟩
  · exact is_first_of_within opens.repeated.least
      (window_part agrees.least.window nonempty bound) inside
  · exact window_part agrees.window nonempty (equalLength ▸ bound)
  · exact same_content_part equalLength bound agrees.same
  · rw [Span.apart_iff]
    simp only [Diagonal.firstSpan, Diagonal.otherSpan, Span.part]
    omega
  · exact large_of_within inside (Nat.le_of_lt opens.repeated.least.window.1)
      opens.repeated.large

/-- The span and the other one lie in one routine, and the other begins where the span ends. -/
def Adjoining (first other : Span) : Prop :=
  first.unit = other.unit ∧ first.routine = other.routine ∧ other.start = first.stop

theorem adjoining_of_overlaps (coherent : Coherent hash digests)
    (member : joined ∈ joinedOn hash digests thresholds diagonal)
    (overlaps : (diagonal.firstSpan joined).overlaps (diagonal.otherSpan joined) = true) :
    Adjoining (spanOn diagonal joined)
      ((diagonal.otherSpan joined).part 0 diagonal.distance.natAbs) := by
  obtain ⟨sameUnit, sameRoutine, positive, _⟩ := distance_of_overlaps coherent member overlaps
  rw [span_on_of_overlaps overlaps]
  refine ⟨sameUnit, sameRoutine, ?_⟩
  simp only [Diagonal.firstSpan, Diagonal.otherSpan, Span.part]
  omega

theorem repeats_of_apart (coherent : Coherent hash digests)
    (member : joined ∈ joinedOn hash digests thresholds diagonal)
    (apart : (diagonal.firstSpan joined).overlaps (diagonal.otherSpan joined) = false) :
    Repeats digests thresholds (spanOn diagonal joined) (diagonal.otherSpan joined) := by
  have agrees := agrees_on_of_mem_joined_on coherent member
  rw [span_on_of_apart apart]
  exact ⟨agrees.least, agrees.window, agrees.same, apart, agrees.large⟩

/-- A wider interval on which the routines agree is linked too, unless it overlaps its repeat. -/
theorem repeats_on_of_wider {piece wider : Nat × Nat}
    (repeats : RepeatsOn digests thresholds diagonal piece) (starts : wider.1 ≤ piece.1)
    (stops : piece.2 ≤ wider.2) (reaches : 0 ≤ wider.1 + diagonal.distance)
    (firstEnd : wider.2 ≤
      (routineStatements digests diagonal.firstUnit diagonal.firstRoutine).length)
    (otherEnd : (wider.2 + diagonal.distance).toNat ≤
      (routineStatements digests diagonal.otherUnit diagonal.otherRoutine).length)
    (agree : ∀ position : Nat, wider.1 ≤ position → position < wider.2 →
      hashAt? digests diagonal.firstUnit diagonal.firstRoutine position =
        hashAt? digests diagonal.otherUnit diagonal.otherRoutine
          (position + diagonal.distance).toNat)
    (apart : (diagonal.firstSpan wider).overlaps (diagonal.otherSpan wider) = false) :
    RepeatsOn digests thresholds diagonal wider := by
  have pieceProper : piece.1 < piece.2 := repeats.repeated.least.window.1
  have window : IsWindow digests (diagonal.firstSpan wider) := by
    simp only [IsWindow, Diagonal.firstSpan]
    omega
  have inside : (diagonal.firstSpan piece).Within (diagonal.firstSpan wider) :=
    ⟨rfl, rfl, starts, stops⟩
  refine ⟨reaches, is_first_of_within repeats.repeated.least window inside, ?_, ?_, apart, ?_⟩
  · simp only [IsWindow, Diagonal.otherSpan]
    omega
  · exact (same_on_diagonal_iff reaches (by omega)).mpr agree
  · exact large_of_within inside (Nat.le_of_lt pieceProper) repeats.repeated.large

theorem not_same_before (coherent : Coherent hash digests)
    (member : joined ∈ joinedOn hash digests thresholds diagonal)
    (apart : (diagonal.firstSpan joined).overlaps (diagonal.otherSpan joined) = false)
    (separate : ¬ Adjoining (diagonal.firstSpan joined) (diagonal.otherSpan joined)) :
    ¬ SameBefore digests (diagonal.firstSpan joined) (diagonal.otherSpan joined) := by
  rintro ⟨firstStart, otherStart, print, firstPrint, otherPrint⟩
  obtain ⟨opening, inOpening, begins, ends⟩ := (Interval.merge_is_union_of _ joined member).opens
  have opens := (mem_intervals_on coherent).mp inOpening
  have proper := opens.repeated.least.window
  have otherWindow := opens.repeated.window
  have opensAgree := (same_on_diagonal_iff opens.reaches (Nat.le_of_lt proper.1)).mp
    opens.repeated.same
  have opensApart := stop_le_of_repeats_on opens
  rw [Span.apart_iff] at apart
  simp only [Adjoining, IsWindow, Diagonal.firstSpan, Diagonal.otherSpan] at *
  have wider : RepeatsOn digests thresholds diagonal (opening.1 - 1, opening.2) := by
    refine repeats_on_of_wider opens (Nat.sub_le _ _) (Nat.le_refl _) ?_ proper.2
      otherWindow.2 ?_ ?_
    · simp only
      omega
    · intro position lower upper
      by_cases atStart : position = opening.1 - 1
      · have there : (position + diagonal.distance).toNat =
            (joined.1 + diagonal.distance).toNat - 1 := by omega
        rw [there, otherPrint, atStart, begins, firstPrint]
      · exact opensAgree position (by simp only at lower; omega) upper
    · rw [Span.apart_iff]
      simp only [Diagonal.firstSpan, Diagonal.otherSpan]
      omega
  have contained := Interval.merge_contains_touching member ((mem_intervals_on coherent).mpr wider)
    (by simp only; omega) (by simp only; omega)
  simp only at contained
  omega

theorem not_same_after (coherent : Coherent hash digests)
    (member : joined ∈ joinedOn hash digests thresholds diagonal)
    (apart : (diagonal.firstSpan joined).overlaps (diagonal.otherSpan joined) = false)
    (separate : ¬ Adjoining (diagonal.firstSpan joined) (diagonal.otherSpan joined)) :
    ¬ SameAfter digests (diagonal.firstSpan joined) (diagonal.otherSpan joined) := by
  rintro ⟨print, firstPrint, otherPrint⟩
  obtain ⟨closing, inClosing, ends, begins⟩ := (Interval.merge_is_union_of _ joined member).closes
  have closes := (mem_intervals_on coherent).mp inClosing
  have reaches := closes.reaches
  have proper := closes.repeated.least.window.1
  have closesAgree := (same_on_diagonal_iff closes.reaches (Nat.le_of_lt proper)).mp
    closes.repeated.same
  have closesApart := stop_le_of_repeats_on closes
  have firstEnd := lt_length_of_hash_at? firstPrint
  have otherEnd := lt_length_of_hash_at? otherPrint
  have joinedReaches := (agrees_on_of_mem_joined_on coherent member).reaches
  rw [Span.apart_iff] at apart
  simp only [Adjoining, Diagonal.firstSpan, Diagonal.otherSpan] at *
  have wider : RepeatsOn digests thresholds diagonal (closing.1, closing.2 + 1) := by
    refine repeats_on_of_wider closes (Nat.le_refl _) (Nat.le_succ _) reaches ?_ ?_ ?_ ?_
    · simp only
      omega
    · simp only
      omega
    · intro position lower upper
      by_cases atEnd : position = closing.2
      · rw [atEnd, ends, firstPrint, otherPrint]
      · exact closesAgree position lower (by simp only at upper; omega)
    · rw [Span.apart_iff]
      simp only [Diagonal.firstSpan, Diagonal.otherSpan]
      omega
  have contained := Interval.merge_contains_touching member ((mem_intervals_on coherent).mpr wider)
    (by simp only; omega) (by simp only; omega)
  simp only at contained
  omega

theorem mem_ordered {span : Span} {spans : List Span} : span ∈ ordered spans ↔ span ∈ spans := by
  rw [ordered, mem_first_of_runs, List.mem_mergeSort]

theorem ordered_pairwise (spans : List Span) : (ordered spans).Pairwise Span.Before := by
  have transitive : ∀ left middle right : Span, left.le middle = true → middle.le right = true →
      left.le right = true := by
    intro left middle right
    simp only [Span.le_iff]
    rintro (rfl | earlier) (rfl | later)
    · exact Or.inl rfl
    · exact Or.inr later
    · exact Or.inr earlier
    · exact Or.inr (Span.before_trans earlier later)
  have total : ∀ left right : Span, (left.le right || right.le left) = true := by
    intro left right
    rw [Bool.or_eq_true, Span.le_iff, Span.le_iff]
    rcases Span.before_trichotomy left right with equal | before | after
    · exact Or.inl (Or.inl equal)
    · exact Or.inl (Or.inr before)
    · exact Or.inr (Or.inr after)
  have sorted : (spans.mergeSort Span.le).Pairwise fun left right =>
      left = right ∨ left.Before right :=
    (List.pairwise_mergeSort transitive total spans).imp (Span.le_iff _ _).mp
  have beforeTransitive : ∀ left middle right : Span, left.Before middle →
      middle.Before right → left.Before right := fun _ _ _ => Span.before_trans
  exact first_of_runs_pairwise beforeTransitive _ sorted

theorem exists_repeat_of_mem_joined_on (coherent : Coherent hash digests)
    (member : joined ∈ joinedOn hash digests thresholds diagonal) :
    ∃ other, Repeats digests thresholds (spanOn diagonal joined) other := by
  cases overlaps : (diagonal.firstSpan joined).overlaps (diagonal.otherSpan joined) with
  | false => exact ⟨_, repeats_of_apart coherent member overlaps⟩
  | true => exact ⟨_, repeats_of_overlaps coherent member overlaps⟩

/-- The spans that head a clone are those of the joined intervals; none of them is too small. -/
theorem mem_firsts (coherent : Coherent hash digests) {span : Span} :
    span ∈ firsts digests thresholds (windows hash digests) ↔
      ∃ diagonal joined, joined ∈ joinedOn hash digests thresholds diagonal ∧
        span = spanOn diagonal joined := by
  rw [firsts, mem_ordered, List.mem_filter, List.mem_flatMap]
  constructor
  · rintro ⟨⟨diagonal, _, member⟩, _⟩
    obtain ⟨joined, inJoined, rfl⟩ := List.mem_map.mp member
    exact ⟨diagonal, joined, inJoined, rfl⟩
  · rintro ⟨diagonal, joined, member, rfl⟩
    obtain ⟨other, repeats⟩ := exists_repeat_of_mem_joined_on coherent member
    refine ⟨⟨diagonal, ?_, List.mem_map.mpr ⟨joined, member, rfl⟩⟩, repeats.large⟩
    -- The diagonal is that of a link, since an interval was joined on it.
    obtain ⟨opening, inOpening, _⟩ := (Interval.merge_is_union_of _ joined member).opens
    obtain ⟨link, inLinks, _⟩ := List.mem_map.mp inOpening
    obtain ⟨isLink, isDiagonal⟩ := List.mem_filter.mp inLinks
    rw [diagonals, List.mem_eraseDups]
    exact List.mem_map.mpr ⟨link, isLink, by simpa using isDiagonal⟩

end Joined
end Clone
end CodeAudit
