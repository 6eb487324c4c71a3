import CodeAudit.Proofs.Clone.MaximalSpan
import Mathlib.Data.List.Basic

/-!
The list of clones. Under a coherent hash the search gives one clone for each maximal span, headed
by that span, with the other places where its content is listed.
-/

namespace CodeAudit

namespace Clone

def headedBy (hash : RunHash) (digests : List UnitDigest) (first : Span) : Clone :=
  ⟨spanFingerprint hash digests first, first, (spread none (occurrencesOf digests first)).tail⟩

section Listed

variable {digests : List UnitDigest} {thresholds : Thresholds} {first : Span}

theorem spans_headed_by (hash : RunHash) (least : IsFirst digests first) :
    (headedBy hash digests first).spans = spread none (occurrencesOf digests first) := by
  obtain ⟨rest, spans⟩ := occurrences_of_first least
  rw [Clone.spans, headedBy, spans, spread_cons_none]
  rfl

theorem listed_window {span : Span} (member : span ∈ spread none (occurrencesOf digests first)) :
    IsWindow digests span ∧ spanHashes digests span = spanHashes digests first :=
  mem_occurrences_of.mp ((spread_sublist _ _).subset member)

theorem listed_apart (digests : List UnitDigest) (first : Span) :
    (spread none (occurrencesOf digests first)).Pairwise fun left right =>
      left.Precedes right ∧ left.overlaps right = false :=
  spread_apart none _ (occurrences_of_ordered digests first)
    fun _ member => (mem_occurrences_of.mp member).1.1

/-- An occurrence is listed or overlaps one that is listed before it. -/
theorem listed_or_overlapped {span : Span} (window : IsWindow digests span)
    (same : spanHashes digests span = spanHashes digests first) :
    span ∈ spread none (occurrencesOf digests first) ∨
      ∃ kept ∈ spread none (occurrencesOf digests first),
        kept.overlaps span = true ∧ kept.Precedes span := by
  rcases spread_covers none _ (occurrences_of_ordered digests first) (by simp) span
    (mem_occurrences_of.mpr ⟨window, same⟩) with listed | ⟨kept, place, overlaps, precedes⟩
  · exact Or.inl listed
  · exact Or.inr ⟨kept, place.resolve_left (by simp), overlaps, precedes⟩

/-- A repeat that is not listed is kept out by a listed one other than the first. -/
theorem repeat_listed_or_overlapped (hash : RunHash) {other : Span}
    (repeats : Repeats digests thresholds first other) :
    other ∈ (headedBy hash digests first).repeats ∨
      ∃ kept ∈ (headedBy hash digests first).repeats,
        kept.overlaps other = true ∧ kept.Precedes other := by
  have spans := spans_headed_by hash repeats.least
  have listed := listed_or_overlapped repeats.window repeats.same.symm
  rw [← spans, Clone.spans] at listed
  have isHead : (headedBy hash digests first).first = first := rfl
  rcases listed with member | ⟨kept, member, overlaps, precedes⟩
  · rcases List.mem_cons.mp member with equal | later
    · exact absurd (equal ▸ repeats.precedes) (by rw [isHead]; exact Span.precedes_irrefl first)
    · exact Or.inl later
  · rcases List.mem_cons.mp member with equal | later
    · rw [equal, isHead, repeats.apart] at overlaps
      cases overlaps
    · exact Or.inr ⟨kept, later, overlaps, precedes⟩

theorem repeats_ne_nil (hash : RunHash) {other : Span}
    (repeats : Repeats digests thresholds first other) :
    (headedBy hash digests first).repeats ≠ [] := by
  rcases repeat_listed_or_overlapped hash repeats with member | ⟨kept, member, _⟩
  · exact List.ne_nil_of_mem member
  · exact List.ne_nil_of_mem member

theorem of_spans?_headed_by (hash : RunHash) {other : Span}
    (repeats : Repeats digests thresholds first other) :
    ofSpans? (spanFingerprint hash digests first) (spread none (occurrencesOf digests first)) =
      some (headedBy hash digests first) := by
  have several := repeats_ne_nil hash repeats
  rw [← spans_headed_by hash repeats.least, Clone.spans]
  cases others : (headedBy hash digests first).repeats with
  | nil => exact absurd others several
  | cons second rest =>
      rw [ofSpans?, ← others]
      rfl

end Listed

section Search

variable {hash : RunHash} {digests : List UnitDigest} {thresholds : Thresholds}

theorem exists_repeat_of_mem_firsts (coherent : Coherent hash digests) {first : Span}
    (member : first ∈ firsts digests thresholds (windows hash digests)) :
    ∃ other, Repeats digests thresholds first other := by
  obtain ⟨diagonal, joined, inJoined, rfl⟩ := (mem_firsts coherent).mp member
  exact exists_repeat_of_mem_joined_on coherent inJoined

theorem is_first_of_mem_firsts (coherent : Coherent hash digests) {first : Span}
    (member : first ∈ firsts digests thresholds (windows hash digests)) :
    IsFirst digests first := by
  obtain ⟨other, repeats⟩ := exists_repeat_of_mem_firsts coherent member
  exact repeats.least

/-- Different maximal spans have different content, for each is the first with its content. -/
theorem fingerprints_nodup (coherent : Coherent hash digests) :
    ((firsts digests thresholds (windows hash digests)).map
      (spanFingerprint hash digests)).Nodup := by
  refine List.pairwise_map.mpr ((ordered_pairwise _).imp_of_mem ?_)
  intro left right inLeft inRight before samePrint
  have leftFirst := is_first_of_mem_firsts coherent inLeft
  have rightFirst := is_first_of_mem_firsts coherent inRight
  have same := coherent.separates left right leftFirst.window rightFirst.window samePrint
  exact Span.before_irrefl left (is_first_unique leftFirst rightFirst same ▸ before)

/-- The windows with the fingerprint and length of a maximal span are its occurrences. -/
theorem occurrences_eq (coherent : Coherent hash digests) {first : Span}
    (member : first ∈ firsts digests thresholds (windows hash digests)) :
    occurrences (windows hash digests)
        ((firsts digests thresholds (windows hash digests)).map fun span =>
          (spanFingerprint hash digests span, span.length))
        (spanFingerprint hash digests first) =
      spread none (occurrencesOf digests first) := by
  have least := is_first_of_mem_firsts coherent member
  rw [occurrences, occurrencesOf, windows, List.filter_map, List.map_map]
  have spanOfWindow : ((fun window : Window => window.span) ∘ fun span =>
      (⟨span, spanFingerprint hash digests span⟩ : Window)) = id := rfl
  rw [spanOfWindow, List.map_id]
  congr 1
  apply List.filter_congr
  intro span inSpans
  have window := mem_all_spans.mp inSpans
  rw [Bool.eq_iff_iff, decide_eq_true_eq]
  simp only [Function.comp_apply, Bool.and_eq_true, beq_iff_eq, List.contains_iff_mem]
  constructor
  · intro accepted
    exact coherent.separates span first window least.window accepted.1
  · intro same
    refine ⟨fingerprint_eq_of_same_content same, List.mem_map.mpr ⟨first, member, ?_⟩⟩
    rw [length_eq_of_same_content window least.window same]

/-- The search gives one clone for each maximal span, in order. -/
theorem search_eq (coherent : Coherent hash digests) :
    search hash digests thresholds =
      (firsts digests thresholds (windows hash digests)).map (headedBy hash digests) := by
  have prints : ((firsts digests thresholds (windows hash digests)).map fun span =>
      (spanFingerprint hash digests span, span.length)).map Prod.fst =
        (firsts digests thresholds (windows hash digests)).map (spanFingerprint hash digests) := by
    rw [List.map_map]
    rfl
  rw [search]
  simp only [prints, erase_dups_of_nodup (fingerprints_nodup coherent)]
  have asFilter : (firsts digests thresholds (windows hash digests)).map (headedBy hash digests) =
      (firsts digests thresholds (windows hash digests)).filterMap
        fun first => some (headedBy hash digests first) := by
    rw [List.filterMap_eq_map']
  rw [List.filterMap_map, asFilter]
  apply List.filterMap_congr
  intro first member
  obtain ⟨other, repeats⟩ := exists_repeat_of_mem_firsts coherent member
  rw [Function.comp_apply, occurrences_eq coherent member, of_spans?_headed_by hash repeats]

theorem mem_search (coherent : Coherent hash digests) {clone : Clone} :
    clone ∈ search hash digests thresholds ↔
      ∃ diagonal joined, joined ∈ joinedOn hash digests thresholds diagonal ∧
        clone = headedBy hash digests (spanOn diagonal joined) := by
  rw [search_eq coherent, List.mem_map]
  constructor
  · rintro ⟨first, member, rfl⟩
    obtain ⟨diagonal, joined, inJoined, rfl⟩ := (mem_firsts coherent).mp member
    exact ⟨diagonal, joined, inJoined, rfl⟩
  · rintro ⟨diagonal, joined, inJoined, rfl⟩
    exact ⟨_, (mem_firsts coherent).mpr ⟨diagonal, joined, inJoined, rfl⟩, rfl⟩

end Search
end Clone
end CodeAudit
