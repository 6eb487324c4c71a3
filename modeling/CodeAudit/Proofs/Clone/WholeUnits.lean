import CodeAudit.Clone.Detector
import CodeAudit.Proofs.OrderedList

/-!
Groups of whole units. The members of a group are all units with one fingerprint that are long
enough, and there is a group wherever two units at different places are members.
-/

namespace CodeAudit

/-- Two units at different places are equal up to layout and long enough to be reported. -/
def DuplicateUnits (thresholds : Thresholds) (digests : List UnitDigest) : Prop :=
  ∃ (left right : Nat) (leftDigest rightDigest : UnitDigest), left ≠ right ∧
    digests[left]? = some leftDigest ∧ digests[right]? = some rightDigest ∧
    leftDigest.fingerprint = rightDigest.fingerprint ∧
    max 1 thresholds.unitLines ≤ leftDigest.significantLines ∧
    max 1 thresholds.unitLines ≤ rightDigest.significantLines

namespace DuplicationReport

def membersOf (thresholds : Thresholds) (digests : List UnitDigest) (print : Fingerprint) :
    List Nat :=
  ((eligible thresholds digests).filter fun (digest, _) => digest.fingerprint == print).map
    Prod.snd

def ListsUnit (thresholds : Thresholds) (digests : List UnitDigest) (group : DuplicateGroup)
    (index : Nat) : Prop :=
  group.granularity = .wholeUnit ∧ ∃ digest, digests[index]? = some digest ∧
    digest.fingerprint = group.fingerprint ∧
    max 1 thresholds.unitLines ≤ digest.significantLines ∧
    unitLocation digest ∈ group.locations

section Members

variable {thresholds : Thresholds} {digests : List UnitDigest} {print : Fingerprint}

theorem mem_members_of {index : Nat} : index ∈ membersOf thresholds digests print ↔
    ∃ digest, digests[index]? = some digest ∧ digest.fingerprint = print ∧
      max 1 thresholds.unitLines ≤ digest.significantLines := by
  simp only [membersOf, eligible, List.mem_map, List.mem_filter, Prod.exists,
    List.mk_mem_zipIdx_iff_getElem?, beq_iff_eq, decide_eq_true_eq, Nat.max_comm]
  constructor
  · rintro ⟨digest, _, ⟨⟨found, long⟩, same⟩, rfl⟩
    exact ⟨digest, found, same, long⟩
  · rintro ⟨digest, found, same, long⟩
    exact ⟨digest, index, ⟨⟨found, long⟩, same⟩, rfl⟩

theorem members_of_nodup : (membersOf thresholds digests print).Nodup := by
  refine List.pairwise_map.mpr ?_
  refine (((zip_idx_positions_increase digests).filter _).filter _).imp fun earlier => ?_
  exact Nat.ne_of_lt earlier

theorem mem_whole_members {members : List Nat} : members ∈ wholeMembers thresholds digests ↔
    ∃ print, members = membersOf thresholds digests print ∧ 2 ≤ members.length := by
  rw [wholeMembers, List.mem_filter, List.mem_map, decide_eq_true_eq]
  constructor
  · rintro ⟨⟨print, _, rfl⟩, several⟩
    exact ⟨print, rfl, several⟩
  · rintro ⟨print, rfl, several⟩
    refine ⟨⟨print, ?_, rfl⟩, several⟩
    rw [mem_first_of_runs, List.mem_mergeSort, List.mem_map]
    have nonempty : membersOf thresholds digests print ≠ [] := by
      intro empty
      rw [empty] at several
      cases several
    obtain ⟨index, member⟩ := List.exists_mem_of_ne_nil _ nonempty
    obtain ⟨entry, inside, _⟩ := List.mem_map.mp member
    obtain ⟨isEligible, same⟩ := List.mem_filter.mp inside
    exact ⟨entry, isEligible, by simpa using same⟩

theorem whole_group?_of_member {index : Nat}
    (member : index ∈ membersOf thresholds digests print) :
    ∃ group, wholeGroup? digests (membersOf thresholds digests print) = some group ∧
      group.granularity = .wholeUnit ∧ group.fingerprint = print := by
  rw [wholeGroup?]
  cases units : (membersOf thresholds digests print).filterMap fun index => digests[index]? with
  | nil =>
      obtain ⟨digest, found, _⟩ := mem_members_of.mp member
      have listed := List.mem_filterMap.mpr ⟨index, member, found⟩
      rw [units] at listed
      cases listed
  | cons first rest =>
      have listed : first ∈ (membersOf thresholds digests print).filterMap
          fun index => digests[index]? := by simp [units]
      obtain ⟨position, isMember, found⟩ := List.mem_filterMap.mp listed
      obtain ⟨digest, same, isPrint, _⟩ := mem_members_of.mp isMember
      rw [found] at same
      cases same
      exact ⟨_, rfl, rfl, isPrint⟩

theorem whole_group?_of_mem_whole_members {members : List Nat}
    (isWhole : members ∈ wholeMembers thresholds digests) :
    ∃ group, wholeGroup? digests members = some group ∧ group.granularity = .wholeUnit ∧
      members = membersOf thresholds digests group.fingerprint := by
  obtain ⟨print, rfl, several⟩ := mem_whole_members.mp isWhole
  obtain ⟨index, member⟩ := List.exists_mem_of_length_pos
    (Nat.lt_of_lt_of_le Nat.zero_lt_two several)
  obtain ⟨group, made, isUnits, samePrint⟩ := whole_group?_of_member member
  exact ⟨group, made, isUnits, by rw [samePrint]⟩

theorem unit_location_mem_of_whole_group? {members : List Nat} {group : DuplicateGroup}
    {index : Nat} {digest : UnitDigest} (made : wholeGroup? digests members = some group)
    (member : index ∈ members) (found : digests[index]? = some digest) :
    unitLocation digest ∈ group.locations := by
  obtain ⟨first, _, rfl⟩ := Option.map_eq_some_iff.mp made
  exact List.mem_map_of_mem (List.mem_filterMap.mpr ⟨index, member, found⟩)

theorem duplicate_units_iff : DuplicateUnits thresholds digests ↔
    wholeMembers thresholds digests ≠ [] := by
  constructor
  · rintro ⟨left, right, leftDigest, rightDigest, different, inLeft, inRight, same, long, longToo⟩
    have leftMember := mem_members_of.mpr ⟨leftDigest, inLeft, same, long⟩
    have rightMember := mem_members_of.mpr ⟨rightDigest, inRight, rfl, longToo⟩
    have several : 2 ≤ (membersOf thresholds digests rightDigest.fingerprint).length := by
      rcases two : membersOf thresholds digests rightDigest.fingerprint with
        _ | ⟨first, _ | ⟨second, rest⟩⟩
      · simp [two] at leftMember
      · rw [two, List.mem_singleton] at leftMember rightMember
        exact absurd (leftMember.trans rightMember.symm) different
      · simp
    exact List.ne_nil_of_mem (mem_whole_members.mpr ⟨_, rfl, several⟩)
  · intro nonempty
    obtain ⟨members, member⟩ := List.exists_mem_of_ne_nil _ nonempty
    obtain ⟨print, rfl, several⟩ := mem_whole_members.mp member
    have distinct : (membersOf thresholds digests print).Nodup := members_of_nodup
    rcases two : membersOf thresholds digests print with _ | ⟨first, _ | ⟨second, rest⟩⟩
    · simp [two] at several
    · simp [two] at several
    · rw [two] at distinct
      have firstMember : first ∈ membersOf thresholds digests print := by simp [two]
      have secondMember : second ∈ membersOf thresholds digests print := by simp [two]
      obtain ⟨firstDigest, inFirst, firstPrint, firstLong⟩ := mem_members_of.mp firstMember
      obtain ⟨secondDigest, inSecond, secondPrint, secondLong⟩ := mem_members_of.mp secondMember
      refine ⟨first, second, firstDigest, secondDigest, ?_, inFirst, inSecond,
        firstPrint.trans secondPrint.symm, firstLong, secondLong⟩
      exact (List.pairwise_cons.mp distinct).1 second (by simp)

end Members
end DuplicationReport
end CodeAudit
