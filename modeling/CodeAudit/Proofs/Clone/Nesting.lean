import CodeAudit.Clone.Group
import Mathlib.Data.Fin.Basic
import Mathlib.Data.List.Forall2
import Mathlib.Data.List.Perm.Subperm

/-!
Nested groups. A group is nested in another when its locations can be given different locations of
the other that contain them. Each group that is dropped as nested is nested in one that is kept to
the end, and what is kept are given groups, each as often as it was given at most.
-/

namespace CodeAudit

def Assigned (inner outer : List Location) : Prop :=
  ∃ assign : Fin inner.length → Fin outer.length, Function.Injective assign ∧
    ∀ index, (outer.get (assign index)).contains (inner.get index) = true

namespace DuplicateGroup

theorem remove_first?_perm {Item : Type} {accepts : Item → Bool} {items remaining : List Item}
    (removed : removeFirst? accepts items = some remaining) :
    ∃ found, accepts found = true ∧ items.Perm (found :: remaining) := by
  induction items generalizing remaining with
  | nil => cases removed
  | cons head rest ih =>
      simp only [removeFirst?] at removed
      split at removed
      · rename_i accepted
        cases removed
        exact ⟨head, accepted, List.Perm.refl _⟩
      · obtain ⟨others, fromRest, rfl⟩ := Option.map_eq_some_iff.mp removed
        obtain ⟨found, accepted, rearranged⟩ := ih fromRest
        exact ⟨found, accepted, (rearranged.cons head).trans (List.Perm.swap found head others)⟩

/-- The locations given away are different members of the outer list. -/
theorem chosen_of_assignable {inner outer : List Location}
    (assigned : assignable inner outer = true) :
    ∃ chosen : List Location, List.Forall₂ (fun location given => given.contains location = true)
      inner chosen ∧ chosen.Subperm outer := by
  induction inner generalizing outer with
  | nil => exact ⟨[], List.Forall₂.nil, List.nil_subperm⟩
  | cons location rest ih =>
      simp only [assignable] at assigned
      split at assigned
      · cases assigned
      · rename_i remaining removed
        obtain ⟨found, contains, rearranged⟩ := remove_first?_perm removed
        obtain ⟨chosen, pairs, part⟩ := ih assigned
        refine ⟨found :: chosen, List.Forall₂.cons contains pairs, ?_⟩
        exact (List.subperm_cons found).mpr part |>.trans rearranged.symm.subperm

theorem assigned_of_chosen {inner chosen outer : List Location}
    (pairs : List.Forall₂ (fun location given => given.contains location = true) inner chosen)
    (part : chosen.Subperm outer) : Assigned inner outer := by
  have equalLength := pairs.length_eq
  refine ⟨fun index => part.idxInj (index.cast equalLength), ?_, ?_⟩
  · intro left right same
    exact Fin.cast_injective equalLength (part.idxInj_injective same)
  · intro index
    have found : outer.get (part.idxInj (index.cast equalLength)) =
        chosen.get (index.cast equalLength) := part.getElem_idxInj_eq_getElem
    rw [found]
    exact pairs.get index.isLt _

/-- A nested group has its locations in different locations of the other group. -/
theorem assigned_of_nested_in {group outer : DuplicateGroup}
    (nested : group.nestedIn outer = true) : Assigned group.locations outer.locations := by
  rw [nestedIn, Bool.and_eq_true] at nested
  obtain ⟨chosen, pairs, part⟩ := chosen_of_assignable nested.2
  exact assigned_of_chosen pairs part

theorem exists_containing_of_nested_in {group outer : DuplicateGroup}
    (nested : group.nestedIn outer = true) {location : Location}
    (member : location ∈ group.locations) :
    ∃ given ∈ outer.locations, given.contains location = true := by
  obtain ⟨place, _, contains⟩ := assigned_of_nested_in nested
  obtain ⟨index, rfl⟩ := List.mem_iff_get.mp member
  exact ⟨_, List.get_mem outer.locations (place index), contains index⟩

theorem subset_foldl_keep (groups kept : List DuplicateGroup) :
    kept ⊆ groups.foldl keepUnlessNested kept := by
  induction groups generalizing kept with
  | nil => exact List.Subset.refl _
  | cons group rest ih =>
      refine List.Subset.trans ?_ (ih (keepUnlessNested kept group))
      simp only [keepUnlessNested]
      split
      · exact List.Subset.refl _
      · exact List.subset_append_left _ _

theorem foldl_keep_sublist (groups kept : List DuplicateGroup) :
    ∃ chosen, chosen.Sublist groups ∧ groups.foldl keepUnlessNested kept = kept ++ chosen := by
  induction groups generalizing kept with
  | nil => exact ⟨[], List.Sublist.refl _, (List.append_nil kept).symm⟩
  | cons group rest ih =>
      obtain ⟨chosen, part, result⟩ := ih (keepUnlessNested kept group)
      rw [List.foldl_cons, result, keepUnlessNested]
      split
      · exact ⟨chosen, part.cons group, rfl⟩
      · exact ⟨group :: chosen, part.cons_cons group, by simp⟩

/-- Nothing is dropped without a group that stays and in which it is nested. -/
theorem foldl_keep_covers (groups kept : List DuplicateGroup) :
    ∀ group ∈ groups, group ∈ groups.foldl keepUnlessNested kept ∨
      ∃ outer ∈ groups.foldl keepUnlessNested kept, group.nestedIn outer = true := by
  induction groups generalizing kept with
  | nil => simp
  | cons head rest ih =>
      intro group member
      rw [List.foldl_cons]
      rcases List.mem_cons.mp member with same | later
      · have stays := subset_foldl_keep rest (keepUnlessNested kept head)
        rw [same]
        by_cases nested : kept.any head.nestedIn = true
        · obtain ⟨outer, inKept, inside⟩ := List.any_eq_true.mp nested
          refine Or.inr ⟨outer, stays ?_, inside⟩
          rwa [keepUnlessNested, if_pos nested]
        · refine Or.inl (stays ?_)
          rw [keepUnlessNested, if_neg nested]
          simp
      · exact ih (keepUnlessNested kept head) group later

theorem drop_nested_covers {groups : List DuplicateGroup} {group : DuplicateGroup}
    (member : group ∈ groups) : group ∈ dropNested groups ∨
      ∃ outer ∈ dropNested groups, group.nestedIn outer = true :=
  foldl_keep_covers _ [] group (List.mem_mergeSort.mpr member)

theorem drop_nested_subperm (groups : List DuplicateGroup) :
    (dropNested groups).Subperm groups := by
  obtain ⟨chosen, part, result⟩ := foldl_keep_sublist (groups.mergeSort largerFirst) []
  rw [dropNested, result, List.nil_append]
  exact part.subperm.trans (List.mergeSort_perm _ _).subperm

end DuplicateGroup
end CodeAudit
