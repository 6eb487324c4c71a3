import CodeAudit.Source.Routine
import Mathlib.Data.List.Pairwise

/-!
Lists with related elements: what is found first in such a list, and what is left of a list when
each run of equal elements is cut to its first one, or when repeated elements are erased.
-/

namespace CodeAudit

section Related

variable {Item : Type} {relation : Item → Item → Prop} {items : List Item}

theorem related_of_mem_pairwise (related : items.Pairwise relation) {left right : Item}
    (inLeft : left ∈ items) (inRight : right ∈ items) :
    left = right ∨ relation left right ∨ relation right left := by
  by_cases equal : left = right
  · exact Or.inl equal
  · have symmetric : Std.Symm fun first second : Item =>
        relation first second ∨ relation second first := ⟨fun _ _ => Or.symm⟩
    have eitherWay : items.Pairwise fun first second =>
        relation first second ∨ relation second first := related.imp Or.inl
    exact Or.inr (eitherWay.forall inLeft inRight equal)

theorem find?_first {accepts : Item → Bool} {first other : Item}
    (ordered : items.Pairwise relation) (found : items.find? accepts = some first)
    (member : other ∈ items) (accepted : accepts other = true) :
    first = other ∨ relation first other := by
  induction items with
  | nil => cases member
  | cons head rest ih =>
      have parts := List.pairwise_cons.mp ordered
      rw [List.find?_cons] at found
      split at found
      · cases found
        rcases List.mem_cons.mp member with same | later
        · exact Or.inl same.symm
        · exact Or.inr (parts.1 other later)
      · rename_i refused
        rcases List.mem_cons.mp member with same | later
        · rw [same, refused] at accepted
          cases accepted
        · exact ih parts.2 found later

theorem related_of_get_elem? (related : items.Pairwise relation) {first second : Nat}
    (earlier : first < second) {left right : Item} (atFirst : items[first]? = some left)
    (atSecond : items[second]? = some right) : relation left right := by
  obtain ⟨firstBound, rfl⟩ := List.getElem?_eq_some_iff.mp atFirst
  obtain ⟨secondBound, rfl⟩ := List.getElem?_eq_some_iff.mp atSecond
  exact List.pairwise_iff_getElem.mp related first second firstBound secondBound earlier

end Related

theorem zip_idx_positions_increase {Item : Type} (items : List Item) :
    items.zipIdx.Pairwise fun left right => left.2 < right.2 := by
  have positions : (items.zipIdx.map Prod.snd).Pairwise (· < ·) := by
    rw [List.zipIdx_map_snd]
    exact List.pairwise_lt_range'
  exact List.pairwise_map.mp positions

section Runs

variable {Item : Type}

theorem mem_of_mem_first_of_runs {Key : Type} [DecidableEq Key] {key : Item → Key} {element : Item}
    {elements : List Item} (member : element ∈ firstOfRuns key elements) : element ∈ elements := by
  fun_induction firstOfRuns key elements with
  | case1 => exact member
  | case2 only => exact member
  | case3 first second rest same ih =>
      rcases List.mem_cons.mp (ih member) with isFirst | inRest
      · simp [isFirst]
      · simp [inRest]
  | case4 first second rest different ih =>
      rcases List.mem_cons.mp member with isFirst | later
      · simp [isFirst]
      · exact List.mem_cons_of_mem _ (ih later)

theorem exists_mem_first_of_runs {Key : Type} [DecidableEq Key] (key : Item → Key) {element : Item}
    {elements : List Item} (member : element ∈ elements) :
    ∃ kept ∈ firstOfRuns key elements, key kept = key element := by
  fun_induction firstOfRuns key elements generalizing element with
  | case1 => cases member
  | case2 only => exact ⟨element, member, rfl⟩
  | case3 first second rest same ih =>
      rcases List.mem_cons.mp member with isFirst | later
      · exact ih (by simp [isFirst])
      · rcases List.mem_cons.mp later with isSecond | inRest
        · rw [isSecond, ← same]
          exact ih List.mem_cons_self
        · exact ih (List.mem_cons_of_mem _ inRest)
  | case4 first second rest different ih =>
      rcases List.mem_cons.mp member with isFirst | later
      · exact ⟨first, List.mem_cons_self, by rw [isFirst]⟩
      · obtain ⟨kept, inKept, same⟩ := ih later
        exact ⟨kept, List.mem_cons_of_mem _ inKept, same⟩

theorem mem_first_of_runs [DecidableEq Item] {element : Item} (elements : List Item) :
    element ∈ firstOfRuns id elements ↔ element ∈ elements := by
  constructor
  · exact mem_of_mem_first_of_runs
  · intro member
    obtain ⟨kept, inKept, rfl⟩ := exists_mem_first_of_runs id member
    exact inKept

theorem first_of_runs_pairwise_key {Key : Type} [DecidableEq Key] {key : Item → Key}
    {relation : Key → Key → Prop}
    (transitive : ∀ left middle right, relation left middle → relation middle right →
      relation left right)
    (elements : List Item)
    (sorted : elements.Pairwise fun left right =>
      key left = key right ∨ relation (key left) (key right)) :
    (firstOfRuns key elements).Pairwise fun left right => relation (key left) (key right) := by
  fun_induction firstOfRuns key elements with
  | case1 => exact List.Pairwise.nil
  | case2 only => exact List.pairwise_singleton _ _
  | case3 first second rest same ih =>
      have shorter : (first :: rest).Sublist (first :: second :: rest) :=
        (List.sublist_cons_self second rest).cons_cons first
      exact ih (sorted.sublist shorter)
  | case4 first second rest different ih =>
      have parts := List.pairwise_cons.mp sorted
      refine List.pairwise_cons.mpr ⟨fun later member => ?_, ih parts.2⟩
      have step : relation (key first) (key second) :=
        (parts.1 second (by simp)).resolve_left different
      rcases List.mem_cons.mp (mem_of_mem_first_of_runs member) with same | inRest
      · exact same ▸ step
      · rcases (List.pairwise_cons.mp parts.2).1 later inRest with same | related
        · exact same ▸ step
        · exact transitive _ _ _ step related

/-- Of all elements with its key, one that remains is the first. -/
theorem find?_of_mem_first_of_runs {Key : Type} [DecidableEq Key] {key : Item → Key}
    {relation : Key → Key → Prop} (irreflexive : ∀ given, ¬ relation given given)
    (transitive : ∀ left middle right, relation left middle → relation middle right →
      relation left right)
    {element : Item} {elements : List Item}
    (sorted : elements.Pairwise fun left right =>
      key left = key right ∨ relation (key left) (key right))
    (member : element ∈ firstOfRuns key elements) :
    elements.find? (fun other => key other = key element) = some element := by
  fun_induction firstOfRuns key elements with
  | case1 => cases member
  | case2 only => simp [List.mem_singleton.mp member]
  | case3 first second rest same ih =>
      have shorter : (first :: rest).Sublist (first :: second :: rest) :=
        (List.sublist_cons_self second rest).cons_cons first
      have found := ih (sorted.sublist shorter) member
      by_cases isKey : key first = key element
      · rw [List.find?_cons_of_pos (by simpa using isKey)] at found ⊢
        exact found
      · have other : key second ≠ key element := same ▸ isKey
        rw [List.find?_cons_of_neg (by simpa using isKey)] at found ⊢
        rw [List.find?_cons_of_neg (by simpa using other)]
        exact found
  | case4 first second rest different ih =>
      rcases List.mem_cons.mp member with isFirst | later
      · simp [isFirst]
      · have strict := first_of_runs_pairwise_key transitive _ sorted
        rw [firstOfRuns, if_neg different] at strict
        have before := (List.pairwise_cons.mp strict).1 element later
        have other : key first ≠ key element := fun same => irreflexive _ (same ▸ before)
        rw [List.find?_cons_of_neg (by simpa using other)]
        exact ih (List.pairwise_cons.mp sorted).2 later

theorem first_of_runs_pairwise [DecidableEq Item] {relation : Item → Item → Prop}
    (transitive : ∀ left middle right, relation left middle → relation middle right →
      relation left right)
    (elements : List Item)
    (sorted : elements.Pairwise fun left right => left = right ∨ relation left right) :
    (firstOfRuns id elements).Pairwise relation :=
  first_of_runs_pairwise_key transitive elements sorted

theorem erase_dups_of_nodup [BEq Item] [LawfulBEq Item] {elements : List Item}
    (distinct : elements.Nodup) : elements.eraseDups = elements := by
  induction elements with
  | nil => rfl
  | cons first rest ih =>
      obtain ⟨fresh, restDistinct⟩ := List.nodup_cons.mp distinct
      have unchanged : (rest.filter fun element => !element == first) = rest := by
        apply List.filter_eq_self.mpr
        intro element member
        have different : element ≠ first := fun equal => fresh (equal ▸ member)
        simpa using different
      rw [List.eraseDups_cons, unchanged, ih restDistinct]

end Runs
end CodeAudit
