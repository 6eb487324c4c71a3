import CodeAudit.Proofs.Config.DuplicationIdentifier
import CodeAudit.Proofs.Config.Validity

/-!
Exit codes of scans. Whether a scan fails depends on the calls of the rules alone: the duplication
pass reports no errors and no faults, and neither the format nor the way of going through the units
changes what is counted. So it is the same under every valid choice of the other options.
-/

namespace CodeAudit

namespace Call

theorem faults_eq_nil_iff (call : Call Rule) : call.faults = [] ↔ call.succeeds = true := by
  unfold faults
  rcases call.outcome_cases with ⟨succeeds, outcome, _⟩ | ⟨fails, fault, outcome, _⟩
  · rw [outcome]
    exact ⟨fun _ => succeeds, fun _ => rfl⟩
  · rw [outcome, fails]
    constructor
    · intro none
      cases none
    · intro succeeds
      cases succeeds

end Call

namespace Scanner

theorem errors_collect (scanner : Scanner) (units : List SourceUnit) :
    (scanner.collect units).2.errors =
      ScanSummary.severityCount .error (successFindings (scanner.engine.calls units)) := by
  have noErrors : ScanSummary.severityCount .error
      ((duplicateGroups scanner.duplication units).map DuplicateGroup.finding) = 0 := by
    apply List.countP_eq_zero.mpr
    intro finding member
    obtain ⟨group, _, rfl⟩ := List.mem_map.mp member
    simp [group.finding_identity.2.1]
  rw [collect_eq]
  calc
    0 + ScanSummary.severityCount .error (scanner.handed units) =
        ScanSummary.severityCount .error (scanner.engine.analyzeAll units).findings := by
      rw [Nat.zero_add, handed, ScanSummary.severity_count_append, noErrors, Nat.add_zero]
    _ = ScanSummary.severityCount .error (successFindings (scanner.engine.calls units)) := by
      rw [scanner.engine.analyze_all_eq, flat_map_findings]

theorem errors_pos_iff (scanner : Scanner) (units : List SourceUnit) :
    0 < (scanner.collect units).2.errors ↔ ∃ call ∈ scanner.engine.calls units,
      call.succeeds = true ∧ ∃ finding ∈ call.given, finding.severity = .error := by
  rw [errors_collect, ScanSummary.severityCount, List.countP_pos_iff]
  simp only [successFindings, List.mem_flatMap, List.mem_filter, beq_iff_eq]
  constructor
  · rintro ⟨finding, ⟨call, ⟨member, succeeds⟩, given⟩, isError⟩
    exact ⟨call, member, succeeds, finding, given, isError⟩
  · rintro ⟨call, member, succeeds, finding, given, isError⟩
    exact ⟨finding, ⟨call, ⟨member, succeeds⟩, given⟩, isError⟩

theorem faults_collect (scanner : Scanner) (units : List SourceUnit) :
    (scanner.collect units).2.faults = (scanner.engine.calls units).flatMap Call.faults := by
  rw [collect_eq]
  exact congrArg Outcome.faults (scanner.engine.analyze_all_eq units)

theorem faults_ne_nil_iff (scanner : Scanner) (units : List SourceUnit) :
    (scanner.collect units).2.faults ≠ [] ↔
      ∃ call ∈ scanner.engine.calls units, call.succeeds = false := by
  rw [faults_collect, ne_eq, List.flatMap_eq_nil_iff]
  simp [Call.faults_eq_nil_iff]

end Scanner

namespace ScanArguments

/-- A successful call found an error, or a call failed and that is to be fatal. -/
def Fails (arguments : ScanArguments) (calls : List (Call Rule)) : Prop :=
  (∃ call ∈ calls, call.succeeds = true ∧ ∃ finding ∈ call.given, finding.severity = .error) ∨
    (arguments.failOnFault = true ∧ ∃ call ∈ calls, call.succeeds = false)

theorem exit_code_collect (arguments : ScanArguments) (scanner : Scanner)
    (units : List SourceUnit) :
    (arguments.Fails (scanner.engine.calls units) →
      arguments.exitCode (scanner.collect units).2 = 1) ∧
    (¬arguments.Fails (scanner.engine.calls units) →
      arguments.exitCode (scanner.collect units).2 = 0) := by
  have condition : (decide (0 < (scanner.collect units).2.errors) || (arguments.failOnFault &&
      !(scanner.collect units).2.faults.isEmpty)) = true ↔
        arguments.Fails (scanner.engine.calls units) := by
    rw [Fails, ← scanner.errors_pos_iff, ← scanner.faults_ne_nil_iff]
    simp
  unfold exitCode
  constructor
  · intro fails
    rw [if_pos (condition.mpr fails)]
  · intro passes
    rw [if_neg (mt condition.mp passes)]

theorem override_eq_ok_iff {arguments : ScanArguments} {loaded config : Config} :
    arguments.override loaded = .ok config ↔
      (arguments.changed loaded).fault? = none ∧ config = arguments.changed loaded := by
  unfold override
  cases valid : (arguments.changed loaded).fault? with
  | some reason => simp
  | none => simp [eq_comm]

theorem registry_changed (arguments : ScanArguments) (config : Config) :
    (arguments.changed config).registry = config.registry :=
  rfl

/-- Of a valid configuration the command line can only spoil the two amounts that it sets. -/
theorem changed_valid {arguments : ScanArguments} {config : Config}
    (valid : config.fault? = none) (unitLines : arguments.minUnitLines ≠ some 0)
    (blockTokens : arguments.minBlockTokens ≠ some 0) :
    (arguments.changed config).fault? = none := by
  have ⟨amounts, named⟩ := config.fault?_eq_none_iff.mp valid
  refine (Config.fault?_eq_none_iff _).mpr ⟨?_, named⟩
  have overridden : ∀ {asked : Option Nat} {held : Nat}, asked ≠ some 0 → held ≠ 0 →
      asked.getD held ≠ 0 := by
    intro asked held notZero heldNotZero
    cases asked with
    | none => exact heldNotZero
    | some amount => exact fun same => notZero (congrArg some same)
  simp only [Config.amounts, List.forall_mem_cons] at amounts ⊢
  obtain ⟨lines, tokens, others⟩ := amounts
  exact ⟨overridden unitLines lines, overridden blockTokens tokens, others⟩

/-- What lets a scan begin: a known format, a path that leads somewhere, and for it a configuration
that is valid with the options, whose rules can be registered and whose excludes can be read. -/
structure Ready (system : FileSystem) (arguments : ScanArguments) (config : Config)
    (registry : Registry) (excludes : Excludes) : Prop where
  knownFormat : arguments.format = "pretty" ∨ arguments.format = "json"
  configured : ∃ found loaded, system.find arguments.path = .ok found ∧
    Config.load system arguments.config (arguments.configDirectory found) = .ok loaded ∧
    arguments.override loaded = .ok config
  registered : config.registry = .ok registry
  excluding : Excludes.ofPatterns config.exclude = .ok excludes

theorem exists_format {arguments : ScanArguments}
    (known : arguments.format = "pretty" ∨ arguments.format = "json") :
    ∃ format, ReportFormat.ofName? arguments.format = some format := by
  rcases known with pretty | json
  · exact ⟨.pretty, by rw [pretty]; rfl⟩
  · exact ⟨.json, by rw [json]; rfl⟩

theorem Ready.plan {system : FileSystem} {arguments : ScanArguments} {config : Config}
    {registry : Registry} {excludes : Excludes}
    (ready : arguments.Ready system config registry excludes) :
    ∃ format, Command.plan system arguments = .ok ⟨format,
      ⟨⟨registry⟩, config.thresholds?, config.isParallel⟩,
      system.units arguments.path excludes⟩ := by
  obtain ⟨format, known⟩ := exists_format ready.knownFormat
  obtain ⟨found, loaded, finds, loads, overrides⟩ := ready.configured
  refine ⟨format, ?_⟩
  unfold Command.plan Command.scannerOf
  rw [known, finds]
  simp only [Except.mapError, bind, Except.bind, loads, overrides, ready.registered,
    ready.excluding]
  rfl

/-- A scan that can begin ends, with the exit code of its totals. -/
theorem Ready.exit_code_run {system : FileSystem} {arguments : ScanArguments} {config : Config}
    {registry : Registry} {excludes : Excludes}
    (ready : arguments.Ready system config registry excludes) (colors : Bool) :
    (Command.run colors system (.scan arguments)).exitCode =
      arguments.exitCode ((Scanner.mk ⟨registry⟩ config.thresholds? config.isParallel).collect
        (system.units arguments.path excludes)).2 := by
  obtain ⟨format, planned⟩ := ready.plan
  simp only [Command.run, Command.runScan, planned]
  rfl

/-- The same path, configuration and severity of faults, and a valid choice of all else. -/
structure Varies (arguments other : ScanArguments) : Prop where
  path : other.path = arguments.path
  config : other.config = arguments.config
  failOnFault : other.failOnFault = arguments.failOnFault
  knownFormat : other.format = "pretty" ∨ other.format = "json"
  minUnitLines : other.minUnitLines ≠ some 0
  minBlockTokens : other.minBlockTokens ≠ some 0

theorem Ready.vary {system : FileSystem} {arguments other : ScanArguments} {config : Config}
    {registry : Registry} {excludes : Excludes}
    (ready : arguments.Ready system config registry excludes) (varies : arguments.Varies other) :
    ∃ otherConfig, other.Ready system otherConfig registry excludes := by
  obtain ⟨found, loaded, finds, loads, overrides⟩ := ready.configured
  obtain ⟨_, rfl⟩ := override_eq_ok_iff.mp overrides
  have valid : (other.changed loaded).fault? = none :=
    changed_valid (Config.fault?_of_load loads) varies.minUnitLines varies.minBlockTokens
  have sameDirectory : other.configDirectory found = arguments.configDirectory found := by
    rw [configDirectory, configDirectory, varies.path]
  refine ⟨other.changed loaded, varies.knownFormat, ⟨found, loaded, ?_, ?_, ?_⟩, ?_, ?_⟩
  · rw [varies.path]
    exact finds
  · rw [varies.config, sameDirectory]
    exact loads
  · exact override_eq_ok_iff.mpr ⟨valid, rfl⟩
  · rw [other.registry_changed, ← arguments.registry_changed]
    exact ready.registered
  · exact ready.excluding

/-- A scan that can begin ends with 1 if a successful call of a rule found an error, or if faults
are fatal and a call failed, and with 0 otherwise. So it ends alike in both formats, with units one
after another or all at once, and under every valid choice about duplicates. -/
theorem exit_code_by_calls {system : FileSystem} {arguments : ScanArguments} {config : Config}
    {registry : Registry} {excludes : Excludes}
    (ready : arguments.Ready system config registry excludes) (colors : Bool) :
    let calls := (Engine.mk registry).calls (system.units arguments.path excludes)
    let result := Command.run colors system (.scan arguments)
    (arguments.Fails calls → result.exitCode = 1) ∧
      (¬arguments.Fails calls → result.exitCode = 0) ∧
      ∀ other, arguments.Varies other → ∀ otherColors,
        (Command.run otherColors system (.scan other)).exitCode = result.exitCode := by
  intro calls result
  have coded : result.exitCode = _ := ready.exit_code_run colors
  have ⟨failing, passing⟩ := exit_code_collect arguments
    ⟨⟨registry⟩, config.thresholds?, config.isParallel⟩ (system.units arguments.path excludes)
  refine ⟨fun fails => coded.trans (failing fails), fun passes => coded.trans (passing passes), ?_⟩
  intro other varies otherColors
  obtain ⟨otherConfig, otherReady⟩ := ready.vary varies
  have ⟨otherFailing, otherPassing⟩ := exit_code_collect other
    ⟨⟨registry⟩, otherConfig.thresholds?, otherConfig.isParallel⟩ (system.units other.path excludes)
  have sameVerdict : other.Fails ((Engine.mk registry).calls (system.units other.path excludes)) ↔
      arguments.Fails calls := by
    rw [Fails, Fails, varies.path, varies.failOnFault]
  rw [otherReady.exit_code_run otherColors, coded]
  by_cases fails : arguments.Fails calls
  · rw [failing fails, otherFailing (sameVerdict.mpr fails)]
  · rw [passing fails, otherPassing (mt sameVerdict.mp fails)]

/-- A unit and a configuration that finds an error in it. -/
def sampleSystem : FileSystem :=
  let beside : List (FileName × FileTree) :=
    [(.ofText "a.rs", .file (StoredFile.ofText "x" Tree.bare)),
      (.ofText "sourcelint.yaml", .file (StoredFile.ofText
        "patterns:\n- id: no-x\n  severity: error\n  pattern: x\n" Tree.bare))]
  ⟨.directory [(.ofText "src", .directory beside), (.ofText "work", .directory [])],
    [.ofText "work"]⟩

def sampleConfig : Config := { patterns := [letterPattern "no-x"] }

def sampleArguments : ScanArguments := { path := "../src/a.rs" }

def variedArguments : ScanArguments :=
  { path := "../src/a.rs", format := "json", noDuplication := true, minUnitLines := some 3,
    parallel := true }

theorem sample_ready :
    ∃ registry, sampleArguments.Ready sampleSystem sampleConfig registry Excludes.none ∧
      sampleArguments.Fails
        ((Engine.mk registry).calls (sampleSystem.units sampleArguments.path Excludes.none)) := by
  have configured : (sampleSystem.find sampleArguments.path).toOption.any (fun found =>
      decide (Config.load sampleSystem none (sampleArguments.configDirectory found) =
        .ok sampleConfig)) = true := by
    decide +kernel
  have observed : sampleConfig.registry.toOption.any (fun registry =>
      ((Engine.mk registry).calls (sampleSystem.units sampleArguments.path Excludes.none)).any
        fun call => call.succeeds && call.given.any fun finding => finding.severity == .error) =
          true := by
    decide +kernel
  cases registered : sampleConfig.registry with
  | error reason =>
      rw [registered] at observed
      cases observed
  | ok registry =>
      rw [registered] at observed
      refine ⟨registry, ⟨Or.inl rfl, ?_, registered, rfl⟩, Or.inl ?_⟩
      · cases finds : sampleSystem.find sampleArguments.path with
        | error reason =>
            rw [finds] at configured
            cases configured
        | ok found =>
            rw [finds] at configured
            exact ⟨found, sampleConfig, rfl, of_decide_eq_true configured, by decide +kernel⟩
      · obtain ⟨call, member, found⟩ := List.any_eq_true.mp observed
        have ⟨succeeds, hasError⟩ := (Bool.and_eq_true _ _).mp found
        obtain ⟨finding, given, isError⟩ := List.any_eq_true.mp hasError
        exact ⟨call, member, succeeds, finding, given, beq_iff_eq.mp isError⟩

theorem exit_code_by_calls_sample :
    (∃ registry, sampleArguments.Ready sampleSystem sampleConfig registry Excludes.none) ∧
      sampleArguments.Varies variedArguments ∧
      (Command.run true sampleSystem (.scan sampleArguments)).exitCode = 1 ∧
      (Command.run false sampleSystem (.scan variedArguments)).exitCode = 1 := by
  obtain ⟨registry, ready, fails⟩ := sample_ready
  have varies : sampleArguments.Varies variedArguments :=
    ⟨rfl, rfl, rfl, Or.inr rfl, by decide, by decide⟩
  have ⟨failing, _, alike⟩ := exit_code_by_calls ready true
  have failed := failing fails
  exact ⟨⟨registry, ready⟩, varies, failed, (alike variedArguments varies false).trans failed⟩

end ScanArguments
end CodeAudit
