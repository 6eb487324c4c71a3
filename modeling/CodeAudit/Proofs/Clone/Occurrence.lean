import CodeAudit.Proofs.Clone.Window

/-!
Occurrences of a content. The first occurrence is the window that no other with the same content
precedes; a window that holds a first occurrence is one itself. Among all occurrences those are
listed that do not overlap the one listed last, which keeps the listed ones apart.
-/

namespace CodeAudit

/-- No window with the same content precedes this one. -/
structure IsFirst (digests : List UnitDigest) (span : Span) : Prop where
  window : IsWindow digests span
  least : ∀ other, IsWindow digests other →
    spanHashes digests other = spanHashes digests span → ¬ other.Precedes span

def occurrencesOf (digests : List UnitDigest) (span : Span) : List Span :=
  (allSpans digests).filter fun other =>
    decide (spanHashes digests other = spanHashes digests span)

section First

variable {digests : List UnitDigest}

theorem precedes_of_before {left right : Span} (equalLength : left.length = right.length)
    (leftProper : left.start < left.stop) (rightProper : right.start < right.stop)
    (before : left.Before right) : left.Precedes right := by
  simp only [Span.Before, Span.Precedes, Span.length] at *
  omega

theorem eq_or_precedes_of_is_first {first other : Span} (least : IsFirst digests first)
    (window : IsWindow digests other)
    (same : spanHashes digests other = spanHashes digests first) :
    first = other ∨ first.Precedes other := by
  have equalLength := length_eq_of_same_content window least.window same
  have notBefore := least.least other window same
  rcases Span.before_trichotomy first other with equal | before | after
  · exact Or.inl equal
  · exact Or.inr (precedes_of_before equalLength.symm least.window.1 window.1 before)
  · exact absurd (precedes_of_before equalLength window.1 least.window.1 after) notBefore

theorem is_first_unique {left right : Span} (leftFirst : IsFirst digests left)
    (rightFirst : IsFirst digests right)
    (same : spanHashes digests left = spanHashes digests right) : left = right := by
  rcases eq_or_precedes_of_is_first leftFirst rightFirst.window same.symm with equal | precedes
  · exact equal
  · exact absurd precedes (rightFirst.least left leftFirst.window same)

/-- An earlier occurrence of a window has an earlier occurrence of each of its parts in it. -/
theorem is_first_of_within {inner outer : Span} (least : IsFirst digests inner)
    (window : IsWindow digests outer) (inside : inner.Within outer) : IsFirst digests outer := by
  refine ⟨window, fun other otherWindow same precedes => ?_⟩
  obtain ⟨isPart, bound⟩ := eq_part_of_within inside (Nat.le_of_lt least.window.1)
  have equalLength := length_eq_of_same_content otherWindow window same
  have nonempty : 0 < inner.length := Nat.sub_pos_of_lt least.window.1
  have partWindow := window_part otherWindow nonempty (equalLength ▸ bound)
  have partSame := same_content_part equalLength (equalLength ▸ bound) same
  rw [← isPart] at partSame
  refine least.least _ partWindow partSame ?_
  simp only [Span.Precedes, Span.Within, Span.part] at *
  omega

theorem mem_occurrences_of {span other : Span} : other ∈ occurrencesOf digests span ↔
    IsWindow digests other ∧ spanHashes digests other = spanHashes digests span := by
  rw [occurrencesOf, List.mem_filter, mem_all_spans, decide_eq_true_eq]

theorem occurrences_of_ordered (digests : List UnitDigest) (span : Span) :
    (occurrencesOf digests span).Pairwise Span.Precedes := by
  refine ((all_spans_ordered digests).filter _).imp_of_mem fun inLeft inRight before => ?_
  obtain ⟨leftWindow, leftSame⟩ := mem_occurrences_of.mp inLeft
  obtain ⟨rightWindow, rightSame⟩ := mem_occurrences_of.mp inRight
  exact precedes_of_before
    (length_eq_of_same_content leftWindow rightWindow (leftSame.trans rightSame.symm))
    leftWindow.1 rightWindow.1 before

theorem exists_is_first {span : Span} (window : IsWindow digests span) :
    ∃ first, IsFirst digests first ∧ spanHashes digests first = spanHashes digests span := by
  have member : span ∈ occurrencesOf digests span := mem_occurrences_of.mpr ⟨window, rfl⟩
  have ordered := occurrences_of_ordered digests span
  cases spans : occurrencesOf digests span with
  | nil => simp [spans] at member
  | cons head rest =>
      have headMember : head ∈ occurrencesOf digests span := by simp [spans]
      obtain ⟨headWindow, headSame⟩ := mem_occurrences_of.mp headMember
      refine ⟨head, ⟨headWindow, fun other otherWindow same precedes => ?_⟩, headSame⟩
      have listed := mem_occurrences_of.mpr ⟨otherWindow, same.trans headSame⟩
      rw [spans] at listed ordered
      rcases List.mem_cons.mp listed with equal | later
      · exact Span.precedes_irrefl head (equal ▸ precedes)
      · exact Span.precedes_asymm ((List.pairwise_cons.mp ordered).1 other later) precedes

theorem occurrences_of_first {first : Span} (least : IsFirst digests first) :
    ∃ rest, occurrencesOf digests first = first :: rest := by
  have member : first ∈ occurrencesOf digests first := mem_occurrences_of.mpr ⟨least.window, rfl⟩
  have ordered := occurrences_of_ordered digests first
  cases spans : occurrencesOf digests first with
  | nil => simp [spans] at member
  | cons head rest =>
      rw [spans] at member ordered
      rcases List.mem_cons.mp member with same | later
      · exact ⟨rest, by rw [same]⟩
      · have precedes := (List.pairwise_cons.mp ordered).1 first later
        have headMember : head ∈ occurrencesOf digests first := by simp [spans]
        obtain ⟨window, same⟩ := mem_occurrences_of.mp headMember
        exact absurd precedes (least.least head window same)

end First

namespace Clone

theorem spread_sublist (last : Option Span) (spans : List Span) :
    (spread last spans).Sublist spans := by
  induction spans generalizing last with
  | nil => exact List.Sublist.refl _
  | cons span rest ih =>
      simp only [spread]
      split
      · exact (ih last).cons span
      · exact (ih (some span)).cons_cons span

theorem spread_cons_none (span : Span) (rest : List Span) :
    spread none (span :: rest) = span :: spread (some span) rest := by
  simp [spread]

theorem apart_of_precedes {kept middle later : Span} (proper : middle.start < middle.stop)
    (first : kept.Precedes middle) (second : middle.Precedes later)
    (apart : kept.overlaps middle = false) : kept.overlaps later = false := by
  rw [Span.apart_iff] at *
  simp only [Span.Precedes] at first second
  omega

theorem spread_apart_from (kept : Span) (spans : List Span)
    (ordered : spans.Pairwise Span.Precedes) (after : ∀ span ∈ spans, kept.Precedes span)
    (proper : ∀ span ∈ spans, span.start < span.stop) :
    ∀ span ∈ spread (some kept) spans, kept.overlaps span = false := by
  induction spans with
  | nil => simp [spread]
  | cons head rest ih =>
      have parts := List.pairwise_cons.mp ordered
      intro span member
      simp only [spread, Option.any_some] at member
      split at member
      · exact ih parts.2 (fun later inRest => after later (List.mem_cons_of_mem _ inRest))
          (fun later inRest => proper later (List.mem_cons_of_mem _ inRest)) span member
      · rename_i apart
        have apartHead : kept.overlaps head = false := by simpa using apart
        rcases List.mem_cons.mp member with same | later
        · exact same ▸ apartHead
        · have inRest := (spread_sublist (some head) rest).subset later
          exact apart_of_precedes (proper head (by simp)) (after head (by simp))
            (parts.1 span inRest) apartHead

/-- What is listed stays in order, and no two listed spans overlap. -/
theorem spread_apart (last : Option Span) (spans : List Span)
    (ordered : spans.Pairwise Span.Precedes) (proper : ∀ span ∈ spans, span.start < span.stop) :
    (spread last spans).Pairwise fun left right =>
      left.Precedes right ∧ left.overlaps right = false := by
  induction spans generalizing last with
  | nil => exact List.Pairwise.nil
  | cons head rest ih =>
      have parts := List.pairwise_cons.mp ordered
      have properRest : ∀ span ∈ rest, span.start < span.stop :=
        fun span member => proper span (List.mem_cons_of_mem _ member)
      simp only [spread]
      split
      · exact ih last parts.2 properRest
      · refine List.pairwise_cons.mpr
          ⟨fun span member => ⟨?_, ?_⟩, ih (some head) parts.2 properRest⟩
        · exact parts.1 span ((spread_sublist _ _).subset member)
        · exact spread_apart_from head rest parts.2 parts.1 properRest span member

/-- What is not listed overlaps a span that was listed before it. -/
theorem spread_covers (last : Option Span) (spans : List Span)
    (ordered : spans.Pairwise Span.Precedes)
    (after : ∀ kept ∈ last, ∀ span ∈ spans, kept.Precedes span) :
    ∀ span ∈ spans, span ∈ spread last spans ∨
      ∃ kept, (kept ∈ last ∨ kept ∈ spread last spans) ∧ kept.overlaps span = true ∧
        kept.Precedes span := by
  induction spans generalizing last with
  | nil => simp
  | cons head rest ih =>
      have parts := List.pairwise_cons.mp ordered
      intro span member
      simp only [spread]
      split
      · rename_i overlapping
        obtain ⟨kept, isLast, overlaps⟩ := (Option.any_eq_true _ _).mp overlapping
        rcases List.mem_cons.mp member with same | later
        · exact Or.inr ⟨kept, Or.inl isLast, same ▸ overlaps, after kept isLast span member⟩
        · exact ih last parts.2
            (fun kept isLast later inRest =>
              after kept isLast later (List.mem_cons_of_mem _ inRest))
            span later
      · rcases List.mem_cons.mp member with same | later
        · exact Or.inl (by simp [same])
        · rcases ih (some head) parts.2 (by simpa using parts.1) span later with
            listed | ⟨kept, place, overlaps, precedes⟩
          · exact Or.inl (List.mem_cons_of_mem _ listed)
          · refine Or.inr ⟨kept, Or.inr ?_, overlaps, precedes⟩
            rcases place with isHead | listed
            · simp [Option.mem_some.mp isHead]
            · exact List.mem_cons_of_mem _ listed

end Clone
end CodeAudit
