import CodeAudit.Clone.Group

/-!
Detection of duplicates over a collection of units: units that are equal up to layout, and runs of
statements that repeat within a unit or across units.
-/

namespace CodeAudit

structure DuplicationReport where
  groups : List DuplicateGroup
deriving DecidableEq

namespace DuplicationReport

def size (report : DuplicationReport) : Nat :=
  report.groups.length

def findings (report : DuplicationReport) : List Finding :=
  report.groups.map DuplicateGroup.finding

def eligible (thresholds : Thresholds) (digests : List UnitDigest) : List (UnitDigest × Nat) :=
  digests.zipIdx.filter fun (digest, _) => max thresholds.unitLines 1 ≤ digest.significantLines

/-- Positions of the units of each whole-unit group, the groups in order of fingerprint. -/
def wholeMembers (thresholds : Thresholds) (digests : List UnitDigest) : List (List Nat) :=
  let units := eligible thresholds digests
  let prints := firstOfRuns id ((units.map fun (digest, _) => digest.fingerprint).mergeSort
    Fingerprint.le)
  (prints.map fun print =>
    (units.filter fun (digest, _) => digest.fingerprint == print).map Prod.snd).filter
      fun members => 2 ≤ members.length

def unitLocation (digest : UnitDigest) : Location :=
  ⟨digest.path, 1, digest.endLine⟩

def wholeGroup? (digests : List UnitDigest) (members : List Nat) : Option DuplicateGroup :=
  let units := members.filterMap fun index => digests[index]?
  units.head?.map fun first => ⟨.wholeUnit, first.fingerprint, none, units.map unitLocation⟩

/-- Whether the spans lie in different units of one whole-unit group, and so repeat what that
group says. -/
def restatesWhole (whole : List (List Nat)) (spans : List Span) : Bool :=
  whole.any (fun members => spans.all fun span => members.contains span.unit) &&
    decide ((spans.map fun span => span.unit).Nodup)

def spanLocation (digests : List UnitDigest) (span : Span) : Location :=
  let lines := spanLines digests span
  ⟨(digests[span.unit]?.map fun digest => digest.path).getD "", lines.1, lines.2⟩

def blockGroup (digests : List UnitDigest) (clone : Clone) : DuplicateGroup :=
  ⟨.subBlock, clone.fingerprint, some clone.first.length,
    clone.spans.map (spanLocation digests)⟩

def ofOrdered (hash : RunHash) (thresholds : Thresholds) (digests : List UnitDigest) :
    DuplicationReport :=
  let whole := wholeMembers thresholds digests
  let clones := (Clone.search hash digests thresholds).filter fun clone =>
    !restatesWhole whole clone.spans
  let blocks := DuplicateGroup.dropNested (clones.map (blockGroup digests))
  ⟨(whole.filterMap (wholeGroup? digests) ++ blocks).mergeSort DuplicateGroup.le⟩

/-- The report on digests in any order: they are visited by path and content. -/
def ofDigests (hash : RunHash) (thresholds : Thresholds) (digests : List UnitDigest) :
    DuplicationReport :=
  ofOrdered hash thresholds (digests.mergeSort UnitDigest.le)

end DuplicationReport

structure Detector where
  thresholds : Thresholds
  digests : List UnitDigest

namespace Detector

def new (thresholds : Thresholds) : Detector :=
  ⟨thresholds, []⟩

def ingest (detector : Detector) (unit : SourceUnit) : Detector :=
  { detector with digests := detector.digests ++ [UnitDigest.ofUnit unit] }

def ingestBatch (detector : Detector) (units : List SourceUnit) : Detector :=
  { detector with digests := detector.digests ++ units.map UnitDigest.ofUnit }

def size (detector : Detector) : Nat :=
  detector.digests.length

def finish (detector : Detector) : DuplicationReport :=
  DuplicationReport.ofDigests Fingerprint.ofBytes detector.thresholds detector.digests

end Detector

def detect (units : List SourceUnit) (thresholds : Thresholds) : DuplicationReport :=
  (units.foldl Detector.ingest (Detector.new thresholds)).finish

end CodeAudit
