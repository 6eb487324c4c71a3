import CodeAudit.Proofs.Clone.Window
import Mathlib.Logic.Function.Basic

/-!
Digests in another order. A rearrangement moves each unit to another place and keeps what is in it,
so windows move along with their units and keep their content, size and fingerprint.
-/

namespace CodeAudit

def underHead (place : Nat → Nat) (index : Nat) : Nat :=
  if index = 0 then 0 else place (index - 1) + 1

def swapHeads (index : Nat) : Nat :=
  if index = 0 then 1 else if index = 1 then 0 else index

theorem under_head_injective {place : Nat → Nat} (injective : Function.Injective place) :
    Function.Injective (underHead place) := by
  intro left right same
  cases left with
  | zero =>
      cases right with
      | zero => rfl
      | succ right => simp [underHead] at same
  | succ left =>
      cases right with
      | zero => simp [underHead] at same
      | succ right =>
          simp only [underHead, Nat.add_one_ne_zero, if_false, Nat.add_sub_cancel,
            Nat.add_right_cancel_iff] at same
          rw [injective same]

theorem swap_heads_involutive : Function.Involutive swapHeads := by
  intro index
  rcases index with _ | _ | index <;> rfl

theorem exists_place_of_perm {Item : Type} {items rearranged : List Item}
    (perm : items.Perm rearranged) :
    ∃ place : Nat → Nat, Function.Injective place ∧
      ∀ index, rearranged[place index]? = items[index]? := by
  induction perm with
  | nil => exact ⟨id, Function.injective_id, fun _ => rfl⟩
  | cons head _ ih =>
      obtain ⟨place, injective, placed⟩ := ih
      refine ⟨underHead place, under_head_injective injective, ?_⟩
      intro index
      cases index with
      | zero => rfl
      | succ index =>
          rw [underHead, if_neg (Nat.succ_ne_zero index)]
          exact placed index
  | swap first second rest =>
      refine ⟨swapHeads, swap_heads_involutive.injective, ?_⟩
      intro index
      rcases index with _ | _ | index <;> rfl
  | trans _ _ firstPlaces secondPlaces =>
      obtain ⟨first, firstInjective, firstPlaced⟩ := firstPlaces
      obtain ⟨second, secondInjective, secondPlaced⟩ := secondPlaces
      exact ⟨second ∘ first, secondInjective.comp firstInjective,
        fun index => (secondPlaced (first index)).trans (firstPlaced index)⟩

def Span.moved (place : Nat → Nat) (span : Span) : Span :=
  { span with unit := place span.unit }

section Moved

variable {digests rearranged : List UnitDigest} {place : Nat → Nat}
  (placed : ∀ index, rearranged[place index]? = digests[index]?)

include placed

theorem routine_statements_moved (unit routine : Nat) :
    routineStatements rearranged (place unit) routine = routineStatements digests unit routine := by
  rw [routineStatements, placed, routineStatements]

theorem span_statements_moved (span : Span) :
    spanStatements rearranged (span.moved place) = spanStatements digests span := by
  rw [spanStatements, spanStatements]
  exact congrArg (fun statements => (statements.drop span.start).take span.length)
    (routine_statements_moved placed span.unit span.routine)

theorem span_hashes_moved (span : Span) :
    spanHashes rearranged (span.moved place) = spanHashes digests span := by
  rw [spanHashes, span_statements_moved placed, spanHashes]

theorem span_tokens_moved (span : Span) :
    spanTokens rearranged (span.moved place) = spanTokens digests span := by
  rw [spanTokens, span_statements_moved placed, spanTokens]

theorem span_fingerprint_moved (hash : RunHash) (span : Span) :
    spanFingerprint hash rearranged (span.moved place) = spanFingerprint hash digests span := by
  rw [spanFingerprint, span_statements_moved placed, spanFingerprint]

theorem is_window_moved {span : Span} (window : IsWindow digests span) :
    IsWindow rearranged (span.moved place) := by
  refine ⟨window.1, ?_⟩
  rw [Span.moved, routine_statements_moved placed]
  exact window.2

end Moved

theorem overlaps_moved {place : Nat → Nat} (injective : Function.Injective place)
    (left right : Span) :
    (left.moved place).overlaps (right.moved place) = left.overlaps right := by
  rw [Bool.eq_iff_iff, Span.overlaps_iff, Span.overlaps_iff]
  simp only [Span.moved, injective.eq_iff]

theorem coherent_of_perm {hash : RunHash} {digests rearranged : List UnitDigest}
    (coherent : Coherent hash digests) (perm : digests.Perm rearranged) :
    Coherent hash rearranged := by
  obtain ⟨place, _, placed⟩ := exists_place_of_perm perm.symm
  constructor
  · intro left right leftWindow rightWindow samePrint
    rw [← span_hashes_moved placed, ← span_hashes_moved placed]
    apply coherent.separates _ _ (is_window_moved placed leftWindow)
      (is_window_moved placed rightWindow)
    rw [span_fingerprint_moved placed, span_fingerprint_moved placed, samePrint]
  · have sameStatements : (allStatements digests).Perm (allStatements rearranged) :=
      perm.flatMap_right _
    intro left inLeft right inRight
    exact coherent.weighs left (sameStatements.mem_iff.mpr inLeft) right
      (sameStatements.mem_iff.mpr inRight)

end CodeAudit
