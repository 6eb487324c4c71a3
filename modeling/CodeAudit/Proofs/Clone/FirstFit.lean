import CodeAudit.Proofs.Clone.Nesting
import Mathlib.Data.List.FinRange

/-!
Nesting by first fit. One pass gives each location of a group the first location of the other group
that contains it and is still free. What the pass gives away are different locations. It finds such
an assignment wherever there is one, unless a location fits into two others and takes the one that
a later location needs. That does not happen between lists in the order of their lines.
-/

namespace CodeAudit

/-- A location fits into two outer ones, of which the first also holds a later location that does
not fit into the second. -/
def Crossed (inner outer : List Location) : Prop :=
  ∃ earlier later near far : Location,
    [earlier, later].Sublist inner ∧ [near, far].Sublist outer ∧
      near.contains earlier = true ∧ far.contains earlier = true ∧
      near.contains later = true ∧ far.contains later = false

theorem Crossed.of_sublist {inner outer moreInner moreOuter : List Location}
    (crossed : Crossed inner outer) (ofInner : inner.Sublist moreInner)
    (ofOuter : outer.Sublist moreOuter) : Crossed moreInner moreOuter := by
  obtain ⟨earlier, later, near, far, inside, around, fits⟩ := crossed
  exact ⟨earlier, later, near, far, inside.trans ofInner, around.trans ofOuter, fits⟩

/-- Of two locations of one path the later one neither begins nor ends on an earlier line. -/
def InLineOrder (locations : List Location) : Prop :=
  locations.Pairwise fun earlier later => earlier.path = later.path →
    earlier.startLine ≤ later.startLine ∧ earlier.endLine ≤ later.endLine

instance (locations : List Location) : Decidable (InLineOrder locations) :=
  inferInstanceAs (Decidable (locations.Pairwise _))

theorem Location.contains_iff {outer inner : Location} : outer.contains inner = true ↔
    outer.path = inner.path ∧ outer.startLine ≤ inner.startLine ∧
      inner.endLine ≤ outer.endLine := by
  simp [contains, and_assoc]

theorem not_crossed_of_in_line_order {inner outer : List Location} (innerOrder : InLineOrder inner)
    (outerOrder : InLineOrder outer) : ¬ Crossed inner outer := by
  rintro ⟨earlier, later, near, far, inside, around, nearEarlier, farEarlier, nearLater, apart⟩
  have lines := List.pairwise_pair.mp (innerOrder.sublist inside)
  have linesAround := List.pairwise_pair.mp (outerOrder.sublist around)
  rw [Location.contains_iff] at nearEarlier farEarlier nearLater
  have begins := (lines (nearEarlier.1.symm.trans nearLater.1)).1
  have ends := (linesAround (nearEarlier.1.trans farEarlier.1.symm)).2
  have fits : far.contains later = true := by
    rw [Location.contains_iff]
    refine ⟨farEarlier.1.trans (nearEarlier.1.symm.trans nearLater.1), ?_, ?_⟩ <;> omega
  rw [apart] at fits
  cases fits

/-- An assignment is a choice of as many members of the outer list, each used once. -/
theorem assigned_iff_chosen {inner outer : List Location} : Assigned inner outer ↔
    ∃ chosen : List Location, List.Forall₂ (fun location given => given.contains location = true)
      inner chosen ∧ chosen.Subperm outer := by
  constructor
  · rintro ⟨assign, injective, contains⟩
    refine ⟨(List.finRange inner.length).map fun index => outer.get (assign index), ?_, ?_⟩
    · rw [List.forall₂_iff_get]
      refine ⟨by simp, ?_⟩
      intro index inInner inChosen
      simpa using contains ⟨index, inInner⟩
    · have places : ((List.finRange inner.length).map assign).Subperm
          (List.finRange outer.length) :=
        ((List.nodup_finRange _).map injective).subperm fun place _ => List.mem_finRange place
      obtain ⟨ordered, rearranged, part⟩ := places
      refine ⟨ordered.map outer.get, ?_, ?_⟩
      · have given := rearranged.map outer.get
        rw [List.map_map] at given
        exact given
      · simpa using part.map outer.get
  · rintro ⟨chosen, pairs, part⟩
    exact DuplicateGroup.assigned_of_chosen pairs part

namespace DuplicateGroup

theorem remove_first?_eq_none {Item : Type} {accepts : Item → Bool} {items : List Item}
    (nothing : removeFirst? accepts items = none) : ∀ item ∈ items, accepts item = false := by
  induction items with
  | nil => simp
  | cons head rest ih =>
      simp only [removeFirst?] at nothing
      split at nothing
      · cases nothing
      · next rejected =>
          simp only [Option.map_eq_none_iff] at nothing
          simpa [rejected] using ih nothing

theorem remove_first?_split {Item : Type} {accepts : Item → Bool} {items remaining : List Item}
    (removed : removeFirst? accepts items = some remaining) :
    ∃ before found after, items = before ++ found :: after ∧ remaining = before ++ after ∧
      accepts found = true ∧ ∀ item ∈ before, accepts item = false := by
  induction items generalizing remaining with
  | nil => cases removed
  | cons head rest ih =>
      simp only [removeFirst?] at removed
      split at removed
      · next accepted =>
          cases removed
          exact ⟨[], head, rest, rfl, rfl, accepted, by simp⟩
      · next rejected =>
          obtain ⟨others, fromRest, rfl⟩ := Option.map_eq_some_iff.mp removed
          obtain ⟨before, found, after, rfl, rfl, accepted, skipped⟩ := ih fromRest
          refine ⟨head :: before, found, after, rfl, rfl, accepted, ?_⟩
          simpa [rejected] using skipped

/-- What holds every location that a given one holds can be given in its place. -/
theorem exists_exchanged {inner chosen : List Location} {found free : Location}
    (pairs : List.Forall₂ (fun location given => given.contains location = true) inner chosen)
    (given : found ∈ chosen)
    (fits : ∀ location ∈ inner, found.contains location = true → free.contains location = true) :
    ∃ exchanged, List.Forall₂ (fun location given => given.contains location = true)
      inner exchanged ∧ (free :: chosen).Perm (found :: exchanged) := by
  induction pairs with
  | nil => cases given
  | @cons location head others rest contains pairs ih =>
      by_cases same : head = found
      · rw [same] at contains ⊢
        exact ⟨free :: rest, List.Forall₂.cons (fits location (by simp) contains) pairs,
          List.Perm.swap found free rest⟩
      · have inRest : found ∈ rest := by simpa [Ne.symm same] using given
        obtain ⟨exchanged, morePairs, rearranged⟩ :=
          ih inRest fun other isOther => fits other (by simp [isOther])
        refine ⟨head :: exchanged, List.Forall₂.cons contains morePairs, ?_⟩
        calc
          List.Perm (free :: head :: rest) (head :: free :: rest) := List.Perm.swap head free rest
          List.Perm _ (head :: found :: exchanged) := rearranged.cons head
          List.Perm _ (found :: head :: exchanged) := List.Perm.swap found head exchanged

/-- Where the lists are not crossed, the other locations can do without the first fit. -/
theorem assigned_of_remove_first? {location : Location} {rest outer remaining : List Location}
    (removed : removeFirst? (fun given => given.contains location) outer = some remaining)
    (uncrossed : ¬ Crossed (location :: rest) outer)
    (assigned : Assigned (location :: rest) outer) : Assigned rest remaining := by
  obtain ⟨all, allPairs, part⟩ := assigned_iff_chosen.mp assigned
  obtain ⟨before, found, after, rfl, rfl, accepted, skipped⟩ := remove_first?_split removed
  cases allPairs with
  | @cons _ given _ chosen contains pairs =>
      have inFound : (given :: chosen).Subperm (found :: (before ++ after)) :=
        part.trans List.perm_middle.subperm
      apply assigned_iff_chosen.mpr
      by_cases taken : found ∈ chosen
      · -- The location that was given the first fit takes what this one was given instead.
        have fits : ∀ other ∈ rest, found.contains other = true → given.contains other = true := by
          intro other isOther inFound
          by_contra apart
          have different : given ≠ found := by
            rintro rfl
            exact apart inFound
          have behind : given ∈ after := by
            have member : given ∈ before ++ found :: after := part.subset (by simp)
            rcases List.mem_append.mp member with early | late
            · rw [skipped given early] at contains
              cases contains
            · simpa [different] using late
          apply uncrossed
          refine ⟨location, other, found, given, ?_, ?_, accepted, contains, inFound, by
            simpa using apart⟩
          · exact (List.singleton_sublist.mpr isOther).cons_cons location
          · exact ((List.singleton_sublist.mpr behind).cons_cons found).trans
              (List.sublist_append_right before _)
        obtain ⟨exchanged, exchangedPairs, rearranged⟩ := exists_exchanged pairs taken fits
        refine ⟨exchanged, exchangedPairs, (List.subperm_cons found).mp ?_⟩
        exact rearranged.symm.subperm.trans inFound
      · have others : chosen.Subperm (found :: (before ++ after)) :=
          List.Subperm.cons_self.trans inFound
        refine ⟨chosen, pairs, ?_⟩
        simpa [List.erase_of_not_mem taken] using others.erase found

theorem assignable_of_assigned {inner outer : List Location} (uncrossed : ¬ Crossed inner outer)
    (assigned : Assigned inner outer) : assignable inner outer = true := by
  induction inner generalizing outer with
  | nil => rfl
  | cons location rest ih =>
      simp only [assignable]
      cases removed : removeFirst? (fun given => given.contains location) outer with
      | none =>
          obtain ⟨assign, _, contains⟩ := assigned
          have held := contains ⟨0, by simp⟩
          have free := remove_first?_eq_none removed _ (List.get_mem outer (assign ⟨0, by simp⟩))
          exact Bool.noConfusion (free.symm.trans held)
      | some remaining =>
          have fewer : remaining.Sublist outer := by
            obtain ⟨before, found, after, rfl, rfl, _⟩ := remove_first?_split removed
            exact (List.sublist_cons_self found after).append_left before
          apply ih
          · intro crossed
            exact uncrossed (crossed.of_sublist (List.sublist_cons_self location rest) fewer)
          · exact assigned_of_remove_first? removed uncrossed assigned

theorem nested_in_of_assignable {group outer : DuplicateGroup}
    (assigned : assignable group.locations outer.locations = true) :
    group.nestedIn outer = true := by
  obtain ⟨chosen, pairs, part⟩ := chosen_of_assignable assigned
  have fewer : group.locations.length ≤ outer.locations.length := by
    rw [pairs.length_eq]
    exact part.length_le
  simp [nestedIn, fewer, assigned]

/-- A nested group has its locations in different locations of the other one. A group that has them
there is nested unless the two are crossed, and never crossed when both are in order of lines. -/
theorem nested_in_by_first_fit (group outer : DuplicateGroup) :
    (group.nestedIn outer = true → Assigned group.locations outer.locations) ∧
      (Assigned group.locations outer.locations →
        group.nestedIn outer = true ∨ Crossed group.locations outer.locations) ∧
      (InLineOrder group.locations → InLineOrder outer.locations →
        (group.nestedIn outer = true ↔ Assigned group.locations outer.locations)) := by
  have found : ¬ Crossed group.locations outer.locations →
      Assigned group.locations outer.locations → group.nestedIn outer = true := by
    intro uncrossed assigned
    exact nested_in_of_assignable (assignable_of_assigned uncrossed assigned)
  refine ⟨assigned_of_nested_in, ?_, ?_⟩
  · intro assigned
    by_cases crossed : Crossed group.locations outer.locations
    · exact Or.inr crossed
    · exact Or.inl (found crossed assigned)
  · intro groupOrder outerOrder
    exact ⟨assigned_of_nested_in, found (not_crossed_of_in_line_order groupOrder outerOrder)⟩

def linesAt (first last : Nat) : Location :=
  ⟨"a.rs", first, last⟩

/-- A group of single statements at the given locations. -/
def groupAt (locations : List Location) : DuplicateGroup :=
  ⟨.subBlock, default, some 1, locations⟩

/-- The outer locations share a line, and both hold the first of the inner ones. -/
theorem nested_in_by_first_fit_shared_line :
    let group := groupAt [linesAt 2 2, linesAt 2 3]
    let outer := groupAt [linesAt 1 2, linesAt 2 3]
    InLineOrder group.locations ∧ InLineOrder outer.locations ∧
      Assigned group.locations outer.locations := by
  intro group outer
  have groupOrder : InLineOrder group.locations := by decide
  have outerOrder : InLineOrder outer.locations := by decide
  have decided := (nested_in_by_first_fit group outer).2.2 groupOrder outerOrder
  exact ⟨groupOrder, outerOrder, decided.mp (by decide)⟩

/-- Each inner location lies in an outer one of its own, but the first takes the one that the second
needs, and so the group is kept beside the one around it. -/
theorem first_fit_misses_nesting :
    let group := groupAt [linesAt 3 3, linesAt 2 2]
    let outer := groupAt [linesAt 2 3, linesAt 3 3]
    Assigned group.locations outer.locations ∧ group.nestedIn outer = false ∧
      dropNested [outer, group] = [outer, group] := by
  intro group outer
  refine ⟨⟨Fin.rev, Fin.rev_injective, by decide⟩, by decide, ?_⟩
  have ordered : [outer, group].Pairwise fun left right => largerFirst left right = true := by
    decide
  rw [dropNested, List.mergeSort_of_pairwise ordered]
  rfl

end DuplicateGroup
end CodeAudit
