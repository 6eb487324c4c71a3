import CodeAudit.Proofs.Clone.SortingOrder

/-!
Feeding a detector, with one unit or with several at a time. However the units are split into calls,
the detector keeps one digest for each, in their order. The report is made of the sorted digests, so
it changes only with the order of units that share both path and content.
-/

namespace CodeAudit

inductive Ingestion where
  | single (unit : SourceUnit)
  | batch (units : List SourceUnit)

namespace Ingestion

def units : Ingestion → List SourceUnit
  | single unit => [unit]
  | batch given => given

def feed (detector : Detector) : Ingestion → Detector
  | single unit => detector.ingest unit
  | batch given => detector.ingestBatch given

def ingested (calls : List Ingestion) : List SourceUnit :=
  calls.flatMap units

end Ingestion

namespace Detector

open Ingestion

def run (detector : Detector) (calls : List Ingestion) : Detector :=
  calls.foldl feed detector

theorem feed_eq (detector : Detector) (call : Ingestion) :
    feed detector call = detector.ingestBatch call.units := by
  cases call with
  | single unit => rfl
  | batch given => rfl

theorem ingest_batch_append (detector : Detector) (first second : List SourceUnit) :
    detector.ingestBatch (first ++ second) = (detector.ingestBatch first).ingestBatch second := by
  simp only [ingestBatch, List.map_append, List.append_assoc]

theorem run_eq (detector : Detector) (calls : List Ingestion) :
    detector.run calls = detector.ingestBatch (ingested calls) := by
  induction calls generalizing detector with
  | nil => simp [run, ingested, ingestBatch]
  | cons call rest ih =>
      calc
        detector.run (call :: rest) = (feed detector call).run rest := rfl
        _ = (detector.ingestBatch call.units).ingestBatch (ingested rest) := by
          rw [ih, feed_eq]
        _ = detector.ingestBatch (call.units ++ ingested rest) := by rw [ingest_batch_append]
        _ = detector.ingestBatch (ingested (call :: rest)) := rfl

theorem finish_run (thresholds : Thresholds) (calls : List Ingestion) :
    ((new thresholds).run calls).finish = DuplicationReport.ofDigests Fingerprint.ofBytes thresholds
      ((ingested calls).map UnitDigest.ofUnit) := by
  rw [run_eq]
  rfl

end Detector

/-- Whether a unit has this path and a normal form with this fingerprint. -/
def SourceUnit.hasKey (path : String) (print : Fingerprint) (unit : SourceUnit) : Bool :=
  unit.path == path && Fingerprint.ofText (Text.normalForm unit.source) == print

/-- The same units in another order, except that those with the same path and the same fingerprint
keep theirs. -/
structure Reordered (units others : List SourceUnit) : Prop where
  perm : units.Perm others
  ties : ∀ path print, units.filter (SourceUnit.hasKey path print) =
    others.filter (SourceUnit.hasKey path print)

theorem tied_of_unit (digest : UnitDigest) (unit : SourceUnit) :
    tied UnitDigest.le digest (UnitDigest.ofUnit unit) =
      unit.hasKey digest.path digest.fingerprint := by
  rw [Bool.eq_iff_iff, UnitDigest.tied_iff_same]
  simp [SourceUnit.hasKey, UnitDigest.ofUnit]

theorem digests_sorted_eq_of_reordered {units others : List SourceUnit}
    (reordered : Reordered units others) :
    (units.map UnitDigest.ofUnit).mergeSort UnitDigest.le =
      (others.map UnitDigest.ofUnit).mergeSort UnitDigest.le := by
  apply merge_sort_eq_of_ties UnitDigest.le_order
  intro digest
  have asKey : tied UnitDigest.le digest ∘ UnitDigest.ofUnit =
      SourceUnit.hasKey digest.path digest.fingerprint := funext (tied_of_unit digest)
  rw [List.filter_map, List.filter_map, asKey,
    reordered.ties digest.path digest.fingerprint]

namespace Detector

open Ingestion

/-- The report does not depend on the order in which units are taken in, nor on how they are split
into calls, as long as units with the same path and the same content keep their order. -/
theorem finish_unaffected_by_order (thresholds : Thresholds) (calls others : List Ingestion)
    (reordered : Reordered (ingested calls) (ingested others)) :
    let report := ((new thresholds).run calls).finish
    let other := ((new thresholds).run others).finish
    report = other ∧ report.findings = other.findings := by
  intro report other
  have same : report = other := by
    simp only [report, other, finish_run, DuplicationReport.ofDigests,
      digests_sorted_eq_of_reordered reordered]
  exact ⟨same, congrArg DuplicationReport.findings same⟩

/-- A unit without routines. -/
def plainUnit (path source : String) : SourceUnit :=
  ⟨path, ⟨"rust", ["rs"], ["function_item"]⟩, source, Tree.bare⟩

/-- The first two units are tied and stay in order; the third is taken in before them. -/
theorem finish_unaffected_by_order_sample :
    let first := plainUnit "a.rs" "one\ntwo"
    let second := plainUnit "a.rs" "one\n\ntwo"
    let third := plainUnit "b.rs" "one \ntwo"
    Reordered [first, second, third] [third, first, second] ∧
      ((new ⟨2, 50, 2⟩).run [.batch [first, second], .single third]).finish =
        ((new ⟨2, 50, 2⟩).run [.single third, .single first, .single second]).finish := by
  intro first second third
  have reordered : Reordered [first, second, third] [third, first, second] := by
    have perm : ([first, second] ++ [third]).Perm ([third] ++ [first, second]) :=
      List.perm_append_comm
    refine ⟨perm, ?_⟩
    intro path print
    by_cases isThird : path = "b.rs"
    · subst isThird
      have firstElsewhere : first.hasKey "b.rs" print = false := rfl
      have secondElsewhere : second.hasKey "b.rs" print = false := rfl
      simp only [List.filter_cons, firstElsewhere, secondElsewhere]
      rfl
    · have thirdElsewhere : third.hasKey path print = false := by
        simp [SourceUnit.hasKey, third, plainUnit, Ne.symm isThird]
      simp [List.filter_cons, thirdElsewhere]
  exact ⟨reordered, (finish_unaffected_by_order ⟨2, 50, 2⟩ [.batch [first, second], .single third]
    [.single third, .single first, .single second] reordered).1⟩

end Detector
end CodeAudit
