import CodeAudit.Command.Run
import CodeAudit.Proofs.Clone.Reporting
import CodeAudit.Proofs.Config.ConfiguredRules
import CodeAudit.Proofs.Engine.Isolation
import CodeAudit.Proofs.Engine.Totals

/-!
Findings under the identifier of the duplication pass. The pass reports each of its groups under
that identifier, as a warning. A scan has no other findings under it, unless an enabled pattern was
given the same identifier: registration does not know it, and lets the pattern in.
-/

namespace CodeAudit

theorem DuplicateGroup.finding_identity (group : DuplicateGroup) :
    group.finding.ruleId = ruleId ∧ group.finding.severity = .warning ∧
      group.finding.category = category :=
  ⟨rfl, rfl, rfl⟩

theorem scanner_of_eq_ok {config : Config} {scanner : Scanner}
    (accepted : Command.scannerOf config = .ok scanner) :
    config.registry = .ok scanner.engine.registry ∧ scanner.duplication = config.thresholds? := by
  unfold Command.scannerOf at accepted
  obtain ⟨registry, registered, same⟩ := Except.exists_of_bind_eq_ok accepted
  cases same
  exact ⟨registered, rfl⟩

theorem Config.duplication_id_not_builtin (config : Config) :
    DuplicateGroup.ruleId ∉ config.builtinRules.map Rule.id := by
  change DuplicateGroup.ruleId ∉ [LongRoutine.info.id, TooManyParameters.info.id]
  decide

/-- The findings of a scan under the identifier of the duplication pass are those of a rule that is
registered under it, and then those of the pass: as many as there are groups, none if it is left
out, all of them warnings of its category. Where no enabled pattern has the identifier there is no
such rule, and they are exactly the findings of the pass. -/
theorem duplication_findings {config : Config} {scanner : Scanner}
    (accepted : Command.scannerOf config = .ok scanner) (units : List SourceUnit) :
    let scan := scanner.collect units
    let found := scan.1.filter fun finding => finding.ruleId == DuplicateGroup.ruleId
    let passed := (duplicateGroups config.thresholds? units).map DuplicateGroup.finding
    let claiming := (scanner.engine.calls units).filter fun call =>
      call.rule.id == DuplicateGroup.ruleId
    found = claiming.flatMap Call.findings ++ passed ∧
      passed.length = scan.2.duplicateGroups ∧
      (config.thresholds? = none → passed = []) ∧
      (∀ finding ∈ passed, finding.ruleId = DuplicateGroup.ruleId ∧
        finding.severity = .warning ∧ finding.category = DuplicateGroup.category) ∧
      ((∀ pattern ∈ config.patterns, config.isRuleEnabled pattern.id = true →
        pattern.id ≠ DuplicateGroup.ruleId) → found = passed) := by
  intro scan found passed claiming
  have ⟨registered, thresholds⟩ := scanner_of_eq_ok accepted
  have scanned : scan = _ := scanner.collect_eq units
  have own : ∀ finding ∈ passed, finding.ruleId = DuplicateGroup.ruleId ∧
      finding.severity = .warning ∧ finding.category = DuplicateGroup.category := by
    intro finding member
    obtain ⟨group, _, rfl⟩ := List.mem_map.mp member
    exact group.finding_identity
  have handed : scan.1 = (scanner.engine.calls units).flatMap Call.findings ++ passed := by
    rw [scanned, Scanner.handed, scanner.engine.analyze_all_eq, thresholds]
  have split : found = claiming.flatMap Call.findings ++ passed := by
    have ofRules := filter_owned Call.findings Finding.ruleId
      (fun _ _ => Call.rule_id_of_mem_findings) (fun id => id == DuplicateGroup.ruleId)
      (scanner.engine.calls units)
    have ofPass : passed.filter (fun finding => finding.ruleId == DuplicateGroup.ruleId) =
        passed := by
      rw [List.filter_eq_self]
      intro finding member
      rw [beq_iff_eq]
      exact (own finding member).1
    change scan.1.filter _ = _
    rw [handed, List.filter_append, ofRules, ofPass]
  refine ⟨split, ?_, ?_, own, ?_⟩
  · rw [scanned, List.length_map, ← thresholds]
    rfl
  · intro leftOut
    change (duplicateGroups config.thresholds? units).map DuplicateGroup.finding = []
    rw [leftOut]
    rfl
  · intro unclaimed
    have noClaim : claiming = [] := by
      apply List.filter_eq_nil_iff.mpr
      intro call isCall same
      rw [beq_iff_eq] at same
      have member : DuplicateGroup.ruleId ∈ scanner.engine.registry.ids := by
        rw [← same]
        exact List.mem_map_of_mem (mem_calls_from.mp isCall).1
      obtain ⟨pattern, inPatterns, enabled, claims⟩ := Config.exists_pattern_of_mem_ids registered
        member config.duplication_id_not_builtin
      exact unclaimed pattern inPatterns enabled claims
    rw [split, noClaim]
    rfl

/-- Looks for a letter, under the given identifier. -/
def letterPattern (id : String) : PatternDefinition :=
  ⟨id, none, "error", PatternDefinition.defaultCategory, "x"⟩

def letterUnit (path : String) : SourceUnit :=
  ⟨path, ⟨"rust", ["rs"], ["function_item"]⟩, "fn x() \x7b\n  a();\n  b();\n  c();\n\x7d\n",
    Tree.bare⟩

def apartConfig : Config := { patterns := [letterPattern "no-x"] }

theorem letter_units_duplicate :
    duplicateGroups apartConfig.thresholds? [letterUnit "a.rs", letterUnit "b.rs"] ≠ [] := by
  let detector : Detector :=
    ⟨⟨5, 50, 2⟩, [UnitDigest.ofUnit (letterUnit "a.rs"), UnitDigest.ofUnit (letterUnit "b.rs")]⟩
  have coherent : Coherent Fingerprint.ofBytes detector.digests := by decide +kernel
  intro nothing
  apply ((detector.finish_groups_eq_nil_iff coherent).mp nothing).1
  exact ⟨0, 1, _, _, by decide, rfl, rfl, rfl, by decide +kernel, by decide +kernel⟩

theorem duplication_findings_sample :
    (∀ pattern ∈ apartConfig.patterns, pattern.id ≠ DuplicateGroup.ruleId) ∧
      ∃ scanner, Command.scannerOf apartConfig = .ok scanner ∧
        let scan := scanner.collect [letterUnit "a.rs", letterUnit "b.rs"]
        let found := scan.1.filter fun finding => finding.ruleId == DuplicateGroup.ruleId
        found ≠ [] ∧ found.length = scan.2.duplicateGroups ∧
          ∀ finding ∈ found, finding.severity = .warning := by
  have apart : ∀ pattern ∈ apartConfig.patterns, pattern.id ≠ DuplicateGroup.ruleId := by decide
  have isAccepted : (Command.scannerOf apartConfig).isOk = true := by decide +kernel
  refine ⟨apart, ?_⟩
  cases accepted : Command.scannerOf apartConfig with
  | error reason =>
      rw [accepted] at isAccepted
      cases isAccepted
  | ok scanner =>
      obtain ⟨_, count, _, own, onlyPass⟩ :=
        duplication_findings accepted [letterUnit "a.rs", letterUnit "b.rs"]
      have same := onlyPass fun pattern member _ => apart pattern member
      refine ⟨scanner, rfl, ?_⟩
      dsimp only
      rw [same]
      refine ⟨?_, count, fun finding member => (own finding member).2.1⟩
      simpa using letter_units_duplicate

def claimingConfig : Config :=
  { isParallel := true
    duplication := { isEnabled := false }
    patterns := [letterPattern DuplicateGroup.ruleId] }

/-- A pattern under the identifier of the duplication pass is accepted, and reports an error under
it although the pass is left out. -/
theorem pattern_reports_as_duplication :
    claimingConfig.fault? = none ∧ claimingConfig.thresholds? = none ∧
      ∃ scanner, Command.scannerOf claimingConfig = .ok scanner ∧
        let scan := scanner.collect [letterUnit "a.rs"]
        let found := scan.1.filter fun finding => finding.ruleId == DuplicateGroup.ruleId
        scan.2.duplicateGroups = 0 ∧ found.map Finding.severity = [.error] := by
  have observed : (Command.scannerOf claimingConfig).toOption.map (fun scanner =>
      let scan := scanner.collect [letterUnit "a.rs"]
      let found := scan.1.filter fun finding => finding.ruleId == DuplicateGroup.ruleId
      (scan.2.duplicateGroups, found.map Finding.severity)) = some (0, [Severity.error]) := by
    decide +kernel
  refine ⟨by decide +kernel, by decide, ?_⟩
  cases accepted : Command.scannerOf claimingConfig with
  | error reason =>
      rw [accepted] at observed
      cases observed
  | ok scanner =>
      rw [accepted] at observed
      exact ⟨scanner, rfl, Prod.mk.inj (Option.some.inj observed)⟩

end CodeAudit
