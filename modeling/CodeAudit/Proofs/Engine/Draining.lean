import CodeAudit.Proofs.Engine.Calls

/-!
Draining an analysis. What an analysis will have given in the end can be read off its state at any
time: what it has, and what the calls still ahead of it contribute. Asking for a finding takes
that finding off and changes nothing else, so draining gives what all calls contribute, which is
also what the units give one by one or all at once.
-/

namespace CodeAudit
namespace Analysis

variable {Member : Type} [Callable Member]

def currentCalls (analysis : Analysis Member) : List (Call Member) :=
  match analysis.current with
  | some unit => analysis.remaining.map (Call.mk (analysis.unitsAnalyzed - 1) unit)
  | none => []

def ahead (analysis : Analysis Member) : List (Call Member) :=
  analysis.currentCalls ++ callsFrom analysis.rules analysis.unitsAnalyzed analysis.units

/-- The findings that are still to be handed out, and the faults there will have been. -/
def forecast (analysis : Analysis Member) : Outcome :=
  Outcome.append ⟨analysis.pending, analysis.faults⟩ (settle analysis.kept analysis.ahead)

def allUnits (analysis : Analysis Member) : Nat :=
  analysis.unitsAnalyzed + analysis.units.length

def Idle (analysis : Analysis Member) : Prop :=
  ∀ unit rule rest, analysis.current = some unit → analysis.remaining = rule :: rest → False

theorem forecast_rules (analysis : Analysis Rule) :
    analysis.forecast = ⟨analysis.pending ++ analysis.ahead.flatMap Call.findings,
      analysis.faults ++ analysis.ahead.flatMap Call.faults⟩ := by
  rw [forecast, settle_rules]
  rfl

section Turn

variable {analysis : Analysis Member}

theorem current_calls_of_idle (idle : analysis.Idle) : analysis.currentCalls = [] := by
  rw [currentCalls]
  split
  · next unit current =>
      cases remaining : analysis.remaining with
      | nil => rfl
      | cons rule rest => exact (idle unit rule rest current remaining).elim
  · rfl

theorem ahead_call {unit : SourceUnit} {rule : Member} {rest : List Member}
    (current : analysis.current = some unit) (remaining : analysis.remaining = rule :: rest)
    (called : Except Fault (List Finding) × Callable.Kept Member) :
    analysis.ahead =
      ⟨analysis.unitsAnalyzed - 1, unit, rule⟩ :: (analysis.afterCall rest called).ahead := by
  obtain ⟨result, kept⟩ := called
  cases result <;> simp [ahead, currentCalls, afterCall, current, remaining]

theorem ahead_visit {unit : SourceUnit} {rest : List SourceUnit} (idle : analysis.Idle)
    (units : analysis.units = unit :: rest) :
    analysis.ahead = (analysis.visit unit rest).ahead := by
  rw [ahead, current_calls_of_idle idle, units, callsFrom]
  rfl

theorem pending_after_call (pending : analysis.pending = []) (rest : List Member)
    (called : Except Fault (List Finding) × Callable.Kept Member) :
    (analysis.afterCall rest called).pending = (Outcome.ofCall called.1).findings := by
  obtain ⟨result, kept⟩ := called
  cases result with
  | ok given => rfl
  | error fault => exact pending

theorem faults_after_call (analysis : Analysis Member) (rest : List Member)
    (called : Except Fault (List Finding) × Callable.Kept Member) :
    (analysis.afterCall rest called).faults =
      analysis.faults ++ (Outcome.ofCall called.1).faults := by
  obtain ⟨result, kept⟩ := called
  cases result with
  | ok given => exact (List.append_nil _).symm
  | error fault => rfl

theorem kept_after_call (analysis : Analysis Member) (rest : List Member)
    (called : Except Fault (List Finding) × Callable.Kept Member) :
    (analysis.afterCall rest called).kept = called.2 := by
  obtain ⟨result, kept⟩ := called
  cases result <;> rfl

theorem units_analyzed_after_call (analysis : Analysis Member) (rest : List Member)
    (called : Except Fault (List Finding) × Callable.Kept Member) :
    (analysis.afterCall rest called).unitsAnalyzed = analysis.unitsAnalyzed := by
  obtain ⟨result, kept⟩ := called
  cases result <;> rfl

-- A call moves what it contributes from the calls ahead to what is there already.
theorem forecast_call {unit : SourceUnit} {rule : Member} {rest : List Member}
    (pending : analysis.pending = []) (current : analysis.current = some unit)
    (remaining : analysis.remaining = rule :: rest) :
    (analysis.afterCall rest (Callable.call rule unit analysis.kept)).forecast =
      analysis.forecast := by
  rw [forecast, forecast, ahead_call current remaining (Callable.call rule unit analysis.kept),
    settle, pending_after_call pending, faults_after_call, kept_after_call, pending]
  simp only [Outcome.append, List.append_assoc, List.nil_append]

theorem forecast_visit {unit : SourceUnit} {rest : List SourceUnit} (idle : analysis.Idle)
    (units : analysis.units = unit :: rest) :
    (analysis.visit unit rest).forecast = analysis.forecast := by
  rw [forecast, forecast, ahead_visit idle units]
  rfl

end Turn

/-- Asking for a finding takes that finding, if there is one, off what is to come. -/
theorem next_forecast (analysis : Analysis Member) :
    analysis.forecast =
      Outcome.append ⟨analysis.next.1.toList, []⟩ analysis.next.2.forecast := by
  fun_induction next analysis with
  | case1 analysis finding rest pending =>
      simp [forecast, Outcome.append, pending, ahead, currentCalls]
  | case2 analysis pending unit rule rest current remaining ih =>
      rw [← forecast_call pending current remaining]
      exact ih
  | case3 analysis pending unit rest units idle ih =>
      rw [← forecast_visit idle units]
      exact ih
  | case4 analysis pending units idle =>
      have ahead : analysis.ahead = [] := by
        rw [Analysis.ahead, current_calls_of_idle idle, units]
        rfl
      rw [forecast, ahead, forecast]
      simp [Outcome.append, Analysis.ahead, currentCalls, units, callsFrom]

theorem next_all_units (analysis : Analysis Member) :
    analysis.next.2.allUnits = analysis.allUnits := by
  fun_induction next analysis with
  | case1 => rfl
  | case2 analysis pending unit rule rest current remaining ih =>
      rw [ih, allUnits, allUnits, units_after_call, units_analyzed_after_call]
  | case3 analysis pending unit rest units idle ih =>
      simp only [allUnits, visit, units, List.length_cons] at ih ⊢
      omega
  | case4 => rfl

/-- When no finding is left, no call and no unit is left either. -/
theorem next_none {analysis : Analysis Member} (nothing : analysis.next.1 = none) :
    analysis.next.2.ahead = [] ∧ analysis.next.2.pending = [] ∧ analysis.next.2.units = [] := by
  fun_induction next analysis with
  | case1 => cases nothing
  | case2 analysis pending unit rule rest current remaining ih => exact ih nothing
  | case3 analysis pending unit rest units idle ih => exact ih nothing
  | case4 analysis pending units idle => simp [ahead, currentCalls, units, pending, callsFrom]

theorem next_findings_none {analysis : Analysis Member} (nothing : analysis.next.1 = none) :
    analysis.forecast.findings = [] ∧ analysis.next.2.forecast.findings = [] := by
  obtain ⟨ahead, pending, _⟩ := next_none nothing
  have after : analysis.next.2.forecast.findings = [] := by
    rw [forecast, ahead, pending]
    rfl
  refine ⟨?_, after⟩
  rw [next_forecast, nothing]
  exact after

theorem next_eq_head? (analysis : Analysis Member) :
    analysis.next.1 = analysis.forecast.findings.head? := by
  cases found : analysis.next.1 with
  | none =>
      rw [(next_findings_none found).1]
      rfl
  | some finding =>
      rw [next_forecast, found]
      rfl

theorem next_eq_tail (analysis : Analysis Member) :
    analysis.next.2.forecast.findings = analysis.forecast.findings.tail := by
  cases found : analysis.next.1 with
  | none =>
      rw [(next_findings_none found).1, (next_findings_none found).2]
      rfl
  | some finding =>
      rw [next_forecast analysis, found]
      rfl

/-- Asking until no finding is left gives these findings and ends in this state. -/
inductive Drains : Analysis Member → List Finding → Analysis Member → Prop where
  | done {analysis final : Analysis Member} (next : analysis.next = (none, final)) :
      Drains analysis [] final
  | hand {analysis rest final : Analysis Member} {finding : Finding} {findings : List Finding}
      (next : analysis.next = (some finding, rest)) (drains : Drains rest findings final) :
      Drains analysis (finding :: findings) final

theorem drains_drain (analysis : Analysis Member) :
    Drains analysis analysis.drain.1 analysis.drain.2 := by
  fun_induction drain analysis with
  | case1 analysis final next => exact Drains.done next
  | case2 analysis finding rest next findings final tail ih =>
      rw [tail] at ih
      exact Drains.hand next ih

theorem forecast_of_drains {analysis final : Analysis Member} {findings : List Finding}
    (drains : Drains analysis findings final) : analysis.forecast = ⟨findings, final.faults⟩ := by
  induction drains with
  | @done analysis final next =>
      have nothing : analysis.next.1 = none := by rw [next]
      obtain ⟨ahead, pending, _⟩ := next_none nothing
      rw [next_forecast, forecast, ahead, pending, next]
      simp [Outcome.append, settle, Outcome.empty]
  | @hand analysis rest final finding findings next drains ih =>
      rw [next_forecast, next, ih]
      rfl

theorem units_analyzed_of_drains {analysis final : Analysis Member} {findings : List Finding}
    (drains : Drains analysis findings final) : final.unitsAnalyzed = analysis.allUnits := by
  induction drains with
  | @done analysis final next =>
      have nothing : analysis.next.1 = none := by rw [next]
      obtain ⟨_, _, units⟩ := next_none nothing
      rw [← next_all_units, allUnits, units, next]
      rfl
  | @hand analysis rest final finding findings next drains ih =>
      rw [ih, ← next_all_units analysis, next]

section Start

variable (kept : Callable.Kept Member) (rules : List Member) (units : List SourceUnit)

/-- Draining gives what all calls contribute, made one after the other. -/
theorem settle_eq_drain :
    settle kept (callsFrom rules 0 units) =
      ⟨(startWith kept rules units).drain.1, (startWith kept rules units).drain.2.faults⟩ :=
  forecast_of_drains (drains_drain (startWith kept rules units))

theorem findings_drain :
    (startWith kept rules units).drain.1 = (settle kept (callsFrom rules 0 units)).findings := by
  rw [settle_eq_drain]

theorem faults_drain :
    (startWith kept rules units).drain.2.faults =
      (settle kept (callsFrom rules 0 units)).faults := by
  rw [settle_eq_drain]

theorem units_analyzed_drain :
    (startWith kept rules units).drain.2.unitsAnalyzed = units.length := by
  rw [units_analyzed_of_drains (drains_drain _), allUnits]
  exact Nat.zero_add _

end Start
end Analysis

namespace Engine

theorem forecast_analyze (engine : Engine) (units : List SourceUnit) :
    (engine.analyze units).forecast = engine.analyzeAll units := by
  rw [analyze_all_eq, Analysis.forecast_rules]
  rfl

theorem drain_analyze (engine : Engine) (units : List SourceUnit) :
    engine.analyzeAll units =
      ⟨(engine.analyze units).drain.1, (engine.analyze units).drain.2.faults⟩ := by
  rw [← forecast_analyze]
  exact Analysis.forecast_of_drains (Analysis.drains_drain _)

theorem drain_findings (engine : Engine) (units : List SourceUnit) :
    (engine.analyze units).drain.1 = (engine.calls units).flatMap Call.findings := by
  have same := (engine.drain_analyze units).symm.trans (engine.analyze_all_eq units)
  exact congrArg Outcome.findings same

theorem drain_faults (engine : Engine) (units : List SourceUnit) :
    (engine.analyze units).drain.2.faults = (engine.calls units).flatMap Call.faults := by
  have same := (engine.drain_analyze units).symm.trans (engine.analyze_all_eq units)
  exact congrArg Outcome.faults same

theorem units_analyzed_drain (engine : Engine) (units : List SourceUnit) :
    (engine.analyze units).drain.2.unitsAnalyzed = units.length :=
  Analysis.units_analyzed_drain Callable.nothing engine.registry.rules units

/-- Draining ends. It gives, call by call, what each successful call found, and records one fault
for each other call. All units at once give the same, and so do the units one by one. -/
theorem runs_agree (engine : Engine) (units : List SourceUnit) :
    ∃ final, Analysis.Drains (engine.analyze units) (successFindings (engine.calls units)) final ∧
      (engine.analyze units).drain = (successFindings (engine.calls units), final) ∧
      List.Forall₂ Call.Explains ((engine.calls units).filter fun call => !call.succeeds)
        final.faults ∧
      engine.analyzeAll units = ⟨successFindings (engine.calls units), final.faults⟩ ∧
      engine.analyzeAll units =
        ⟨units.flatMap fun unit => (engine.analyzeUnit unit).findings,
          units.flatMap fun unit => (engine.analyzeUnit unit).faults⟩ := by
  have findings := engine.drain_findings units
  rw [flat_map_findings] at findings
  refine ⟨(engine.analyze units).drain.2, ?_, ?_, ?_, ?_, ?_⟩
  · rw [← findings]
    exact Analysis.drains_drain _
  · rw [← findings]
  · rw [engine.drain_faults]
    exact Call.faults_explain_failures _
  · rw [← findings]
    exact engine.drain_analyze units
  · exact engine.analyze_all_flat_map units

end Engine
end CodeAudit
