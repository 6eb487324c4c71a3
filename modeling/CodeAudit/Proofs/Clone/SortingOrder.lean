import CodeAudit.Clone.Detector
import CodeAudit.Proofs.StableSort
import Mathlib.Data.String.Basic
import Mathlib.Order.OrderDual

/-!
The orders by which the detector sorts: digests by path and content, groups by granularity and first
location, and groups that may be nested by the lines they cover. Each compares keys in turn, so any
two items are ordered and the order is transitive.
-/

namespace CodeAudit

namespace Fingerprint

theorem le_iff (left right : Fingerprint) : left.le right = true ↔ left.bytes ≤ right.bytes :=
  decide_eq_true_iff

theorem le_order : TotalPreorder Fingerprint.le := by
  constructor
  · intro left middle right
    simp only [le_iff]
    exact List.le_trans
  · intro left right
    rw [Bool.or_eq_true, le_iff, le_iff]
    exact List.le_total left.bytes right.bytes

theorem eq_of_le_of_le {left right : Fingerprint} (forward : left.le right = true)
    (backward : right.le left = true) : left = right := by
  rw [le_iff] at forward backward
  exact congrArg Fingerprint.mk (List.le_antisymm forward backward)

end Fingerprint

namespace UnitDigest

theorem le_iff (left right : UnitDigest) : left.le right = true ↔
    left.path < right.path ∨
      left.path = right.path ∧ left.fingerprint.le right.fingerprint = true := by
  simp [le]

theorem le_order : TotalPreorder UnitDigest.le := by
  apply TotalPreorder.of_key (fun digest => digest.path) _ le_iff
  constructor
  · intro left middle right
    exact Fingerprint.le_order.transitive left.fingerprint middle.fingerprint right.fingerprint
  · intro left right
    exact Fingerprint.le_order.total left.fingerprint right.fingerprint

theorem tied_iff_same (left right : UnitDigest) : tied UnitDigest.le left right = true ↔
    right.path = left.path ∧ right.fingerprint = left.fingerprint := by
  rw [tied_iff, le_iff, le_iff]
  constructor
  · rintro ⟨earlier | ⟨same, forward⟩, later | ⟨_, backward⟩⟩
    · exact absurd later (lt_asymm earlier)
    · simp_all
    · simp_all
    · exact ⟨same.symm, Fingerprint.eq_of_le_of_le backward forward⟩
  · rintro ⟨samePath, samePrint⟩
    rw [samePath, samePrint]
    have reflexive := Fingerprint.le_order.refl left.fingerprint
    exact ⟨Or.inr ⟨rfl, reflexive⟩, Or.inr ⟨rfl, reflexive⟩⟩

theorem path_le_of_le {left right : UnitDigest} (before : left.le right = true) :
    left.path ≤ right.path := by
  rcases (le_iff left right).mp before with earlier | ⟨same, _⟩
  · exact le_of_lt earlier
  · exact le_of_eq same

end UnitDigest

namespace DuplicateGroup

theorem le_iff (left right : DuplicateGroup) : left.le right = true ↔
    left.granularity.rank < right.granularity.rank ∨
      left.granularity.rank = right.granularity.rank ∧
        (left.firstPath < right.firstPath ∨
          left.firstPath = right.firstPath ∧ left.firstLine ≤ right.firstLine) := by
  simp [le]

theorem line_le_order : TotalPreorder fun left right : DuplicateGroup =>
    decide (left.firstLine ≤ right.firstLine) := by
  constructor
  · intro left middle right
    simp only [decide_eq_true_eq]
    exact Nat.le_trans
  · intro left right
    rw [Bool.or_eq_true, decide_eq_true_eq, decide_eq_true_eq]
    exact Nat.le_total left.firstLine right.firstLine

theorem le_order : TotalPreorder DuplicateGroup.le := by
  have byPath : TotalPreorder fun left right : DuplicateGroup =>
      decide (left.firstPath < right.firstPath) ||
        left.firstPath == right.firstPath && decide (left.firstLine ≤ right.firstLine) :=
    line_le_order.of_key (fun group => group.firstPath) fun left right => by simp
  exact byPath.of_key (fun group => group.granularity.rank) fun left right => by simp [le]

theorem larger_first_order : TotalPreorder largerFirst :=
  le_order.of_key (fun group => OrderDual.toDual group.coveredLines) fun left right => by
    simp [largerFirst]

end DuplicateGroup
end CodeAudit
