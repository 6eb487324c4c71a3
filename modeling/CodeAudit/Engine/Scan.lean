import CodeAudit.Clone.Detector
import CodeAudit.Engine.Basic

/-!
Scans: the rules over all units, then the search for duplicates.
-/

namespace CodeAudit

structure ScanSummary where
  unitsAnalyzed : Nat
  findings : Nat
  errors : Nat
  warnings : Nat
  infos : Nat
  duplicateGroups : Nat
  faults : List Fault
deriving DecidableEq

namespace ScanSummary

def empty : ScanSummary := ⟨0, 0, 0, 0, 0, 0, []⟩

def record (summary : ScanSummary) (finding : Finding) : ScanSummary :=
  let counted := { summary with findings := summary.findings + 1 }
  match finding.severity with
  | .error => { counted with errors := summary.errors + 1 }
  | .warning => { counted with warnings := summary.warnings + 1 }
  | .info => { counted with infos := summary.infos + 1 }

def recordAll (summary : ScanSummary) (findings : List Finding) : ScanSummary :=
  findings.foldl record summary

end ScanSummary

structure Scanner where
  engine : Engine
  /-- The thresholds of the search for duplicates, or none to leave it out. -/
  duplication : Option Thresholds
  parallel : Bool

namespace Scanner

def runRules (scanner : Scanner) (units : List SourceUnit) : Outcome × Nat :=
  if scanner.parallel then
    (scanner.engine.analyzeAll units, units.length)
  else
    let (findings, final) := (scanner.engine.analyze units).drain
    (⟨findings, final.faults⟩, final.unitsAnalyzed)

def detectDuplicates (scanner : Scanner) (units : List SourceUnit) : Option DuplicationReport :=
  scanner.duplication.map fun thresholds =>
    if scanner.parallel then ((Detector.new thresholds).ingestBatch units).finish
    else detect units thresholds

/-- All findings in the order in which they are handed out, and the totals. -/
def collect (scanner : Scanner) (units : List SourceUnit) : List Finding × ScanSummary :=
  let (outcome, count) := scanner.runRules units
  let summary := ScanSummary.empty.recordAll outcome.findings
  let summary := { summary with unitsAnalyzed := count, faults := outcome.faults }
  match scanner.detectDuplicates units with
  | none => (outcome.findings, summary)
  | some report =>
      let summary := { summary with duplicateGroups := report.size }
      (outcome.findings ++ report.findings, summary.recordAll report.findings)

end Scanner
end CodeAudit
