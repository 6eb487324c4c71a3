import Mathlib.Data.List.Sort

/-!
Stable sorting by an order in which different items may be tied. A sorted list is known by the
order of the items in each tie, and sorting leaves that order alone. So the order of the input
matters only within ties, and sorting a part of a list gives the part of the sorted list.
-/

namespace CodeAudit

structure TotalPreorder {Item : Type} (le : Item → Item → Bool) : Prop where
  transitive : ∀ left middle right, le left middle = true → le middle right = true →
    le left right = true
  total : ∀ left right, (le left right || le right left) = true

def tied {Item : Type} (le : Item → Item → Bool) (left right : Item) : Bool :=
  le left right && le right left

section Order

variable {Item : Type} {le : Item → Item → Bool}

theorem tied_iff (left right : Item) :
    tied le left right = true ↔ le left right = true ∧ le right left = true :=
  Bool.and_eq_true_iff

namespace TotalPreorder

theorem refl (order : TotalPreorder le) (item : Item) : le item item = true := by
  simpa using order.total item item

theorem tied_self (order : TotalPreorder le) (item : Item) : tied le item item = true :=
  (tied_iff item item).mpr ⟨order.refl item, order.refl item⟩

/-- An order by a key, and by another order among items with the same key. -/
theorem of_key {Key : Type} [LinearOrder Key] (key : Item → Key) {among : Item → Item → Bool}
    (order : TotalPreorder among)
    (meaning : ∀ left right, le left right = true ↔
      key left < key right ∨ key left = key right ∧ among left right = true) :
    TotalPreorder le := by
  constructor
  · intro left middle right first second
    rw [meaning] at *
    rcases first with earlier | ⟨same, first⟩
    · rcases second with later | ⟨sameToo, _⟩
      · exact Or.inl (lt_trans earlier later)
      · exact Or.inl (sameToo ▸ earlier)
    · rcases second with later | ⟨sameToo, second⟩
      · exact Or.inl (same ▸ later)
      · exact Or.inr ⟨same.trans sameToo, order.transitive left middle right first second⟩
  · intro left right
    rw [Bool.or_eq_true, meaning, meaning]
    rcases lt_trichotomy (key left) (key right) with earlier | same | later
    · exact Or.inl (Or.inl earlier)
    · rcases Bool.or_eq_true_iff.mp (order.total left right) with forward | backward
      · exact Or.inl (Or.inr ⟨same, forward⟩)
      · exact Or.inr (Or.inr ⟨same.symm, backward⟩)
    · exact Or.inr (Or.inl later)

end TotalPreorder
end Order

section Sorting

variable {Item : Type} {le : Item → Item → Bool} (order : TotalPreorder le)

include order

theorem ne_nil_of_ties {left right : List Item}
    (ties : ∀ item, left.filter (tied le item) = right.filter (tied le item))
    (nonempty : right ≠ []) : left ≠ [] := by
  intro empty
  obtain ⟨item, member⟩ := List.exists_mem_of_ne_nil right nonempty
  have listed : item ∈ right.filter (tied le item) :=
    List.mem_filter.mpr ⟨member, order.tied_self item⟩
  rw [← ties item, empty] at listed
  cases listed

/-- The head of a sorted list comes before the head of any list with the same ties. -/
theorem le_head_of_ties {first other : Item} {rest others : List Item}
    (sorted : (first :: rest).Pairwise fun left right => le left right = true)
    (ties : ∀ item,
      (first :: rest).filter (tied le item) = (other :: others).filter (tied le item)) :
    le first other = true := by
  have listed : other ∈ (other :: others).filter (tied le other) :=
    List.mem_filter.mpr ⟨List.mem_cons_self, order.tied_self other⟩
  rw [← ties other] at listed
  rcases List.mem_cons.mp (List.mem_of_mem_filter listed) with same | later
  · rw [same]
    exact order.refl first
  · exact (List.pairwise_cons.mp sorted).1 other later

theorem eq_of_sorted_of_ties {left right : List Item}
    (leftSorted : left.Pairwise fun first second => le first second = true)
    (rightSorted : right.Pairwise fun first second => le first second = true)
    (ties : ∀ item, left.filter (tied le item) = right.filter (tied le item)) :
    left = right := by
  induction left generalizing right with
  | nil =>
      by_contra different
      exact ne_nil_of_ties order ties (fun empty => different empty.symm) rfl
  | cons first rest ih =>
      cases right with
      | nil => exact absurd rfl (ne_nil_of_ties order (fun item => (ties item).symm) (by simp))
      | cons other others =>
          have forward := le_head_of_ties order leftSorted ties
          have backward := le_head_of_ties order rightSorted fun item => (ties item).symm
          have isTied : tied le first other = true := (tied_iff first other).mpr ⟨forward, backward⟩
          have same : first = other := by
            have heads := ties first
            rw [List.filter_cons_of_pos (order.tied_self first),
              List.filter_cons_of_pos isTied] at heads
            exact (List.cons.inj heads).1
          subst same
          rw [ih (List.pairwise_cons.mp leftSorted).2 (List.pairwise_cons.mp rightSorted).2]
          intro item
          have both := ties item
          by_cases isWith : tied le item first = true
          · rw [List.filter_cons_of_pos isWith, List.filter_cons_of_pos isWith] at both
            exact (List.cons.inj both).2
          · rwa [List.filter_cons_of_neg isWith, List.filter_cons_of_neg isWith] at both

/-- Sorting keeps the order of the items of a tie. -/
theorem filter_tied_merge_sort (items : List Item) (item : Item) :
    (items.mergeSort le).filter (tied le item) = items.filter (tied le item) := by
  have inOrder : (items.filter (tied le item)).Pairwise fun left right => le left right = true := by
    apply List.pairwise_of_forall_mem_list
    intro left inLeft right inRight
    have leftTied := (tied_iff item left).mp (List.mem_filter.mp inLeft).2
    have rightTied := (tied_iff item right).mp (List.mem_filter.mp inRight).2
    exact order.transitive left item right leftTied.2 rightTied.1
  have kept := (List.sublist_mergeSort order.transitive order.total inOrder
    List.filter_sublist).filter (tied le item)
  simp only [List.filter_filter, Bool.and_self] at kept
  have equalLength := ((List.mergeSort_perm items le).filter (tied le item)).length_eq
  exact (kept.eq_of_length equalLength.symm).symm

theorem merge_sort_sorted (items : List Item) :
    (items.mergeSort le).Pairwise fun left right => le left right = true :=
  List.pairwise_mergeSort order.transitive order.total items

theorem merge_sort_eq_of_ties {left right : List Item}
    (ties : ∀ item, left.filter (tied le item) = right.filter (tied le item)) :
    left.mergeSort le = right.mergeSort le := by
  apply eq_of_sorted_of_ties order (merge_sort_sorted order left) (merge_sort_sorted order right)
  intro item
  rw [filter_tied_merge_sort order, filter_tied_merge_sort order, ties item]

theorem filter_merge_sort (items : List Item) (accepts : Item → Bool) :
    (items.mergeSort le).filter accepts = (items.filter accepts).mergeSort le := by
  apply eq_of_sorted_of_ties order ((merge_sort_sorted order items).filter accepts)
    (merge_sort_sorted order _)
  intro item
  rw [filter_tied_merge_sort order, List.filter_comm, filter_tied_merge_sort order,
    List.filter_comm]

end Sorting

theorem merge_sort_map {Item Key : Type} (le : Key → Key → Bool) (key : Item → Key)
    (items : List Item) : (items.map key).mergeSort le =
      (items.mergeSort fun left right => le (key left) (key right)).map key := by
  symm
  apply List.map_mergeSort
  intro left _ right _
  rfl

theorem eq_of_mem_iff_of_ordered {Item : Type} {before : Item → Item → Prop}
    (asymmetric : ∀ left right, before left right → ¬ before right left) {left right : List Item}
    (leftOrdered : left.Pairwise before) (rightOrdered : right.Pairwise before)
    (same : ∀ item, item ∈ left ↔ item ∈ right) : left = right := by
  have antisymm : Std.Antisymm before :=
    ⟨fun first second earlier later => absurd later (asymmetric first second earlier)⟩
  have irrefl : Std.Irrefl before := ⟨fun item self => asymmetric item item self self⟩
  exact leftOrdered.eq_of_mem_iff rightOrdered same

end CodeAudit
