import CodeAudit.Engine.Scan
import CodeAudit.Proofs.Engine.Draining

/-!
Totals of a scan. Both ways of scanning hand out the same findings, those of the rules and then
one for each group of duplicates, and the totals count what was handed out.
-/

namespace CodeAudit

namespace ScanSummary

def severityCount (severity : Severity) (findings : List Finding) : Nat :=
  findings.countP fun finding => finding.severity == severity

theorem severity_count_append (severity : Severity) (first second : List Finding) :
    severityCount severity (first ++ second) =
      severityCount severity first + severityCount severity second :=
  List.countP_append

/-- A summary with more findings counted, and all else as it was. -/
def adding (summary : ScanSummary) (findings : List Finding) : ScanSummary :=
  { summary with
    findings := summary.findings + findings.length
    errors := summary.errors + severityCount .error findings
    warnings := summary.warnings + severityCount .warning findings
    infos := summary.infos + severityCount .info findings }

theorem record_eq_adding (summary : ScanSummary) (finding : Finding) :
    summary.record finding = summary.adding [finding] := by
  cases severity : finding.severity <;> simp [record, adding, severityCount, severity]

theorem adding_append (summary : ScanSummary) (first second : List Finding) :
    summary.adding (first ++ second) = (summary.adding first).adding second := by
  simp only [adding, severity_count_append, List.length_append, Nat.add_assoc]

theorem record_all_eq_adding (summary : ScanSummary) (findings : List Finding) :
    summary.recordAll findings = summary.adding findings := by
  induction findings generalizing summary with
  | nil => rfl
  | cons finding rest ih =>
      calc
        summary.recordAll (finding :: rest) = (summary.record finding).recordAll rest := rfl
        _ = (summary.adding [finding]).adding rest := by rw [ih, record_eq_adding]
        _ = summary.adding (finding :: rest) := (adding_append summary [finding] rest).symm

end ScanSummary

theorem Detector.foldl_ingest (detector : Detector) (units : List SourceUnit) :
    units.foldl Detector.ingest detector = detector.ingestBatch units := by
  induction units generalizing detector with
  | nil => simp [ingestBatch]
  | cons unit rest ih =>
      rw [List.foldl_cons, ih]
      simp [ingest, ingestBatch]

/-- The groups of duplicates that a scan reports, none where it does not look for them. -/
def duplicateGroups (duplication : Option Thresholds) (units : List SourceUnit) :
    List DuplicateGroup :=
  match duplication with
  | none => []
  | some thresholds => (detect units thresholds).groups

namespace Scanner

theorem run_rules_eq (scanner : Scanner) (units : List SourceUnit) :
    scanner.runRules units = (scanner.engine.analyzeAll units, units.length) := by
  rw [runRules]
  split
  · rfl
  · exact congrArg₂ Prod.mk (scanner.engine.drain_analyze units).symm
      (scanner.engine.units_analyzed_drain units)

theorem detect_duplicates_eq (scanner : Scanner) (units : List SourceUnit) :
    scanner.detectDuplicates units = scanner.duplication.map (detect units) := by
  rw [detectDuplicates]
  congr 1
  funext thresholds
  split
  · rw [detect, Detector.foldl_ingest]
  · rfl

def handed (scanner : Scanner) (units : List SourceUnit) : List Finding :=
  (scanner.engine.analyzeAll units).findings ++
    (duplicateGroups scanner.duplication units).map DuplicateGroup.finding

def uncounted (scanner : Scanner) (units : List SourceUnit) : ScanSummary :=
  ⟨units.length, 0, 0, 0, 0, (duplicateGroups scanner.duplication units).length,
    (scanner.engine.analyzeAll units).faults⟩

theorem collect_eq (scanner : Scanner) (units : List SourceUnit) :
    scanner.collect units =
      (scanner.handed units, (scanner.uncounted units).adding (scanner.handed units)) := by
  rw [collect, run_rules_eq, detect_duplicates_eq, handed, ScanSummary.adding_append]
  obtain ⟨engine, duplication, parallel⟩ := scanner
  cases duplication with
  | none =>
      simp only [Option.map_none, ScanSummary.record_all_eq_adding]
      exact congrArg₂ Prod.mk (List.append_nil _).symm rfl
  | some thresholds =>
      simp only [Option.map_some, ScanSummary.record_all_eq_adding]
      rfl

end Scanner
end CodeAudit
