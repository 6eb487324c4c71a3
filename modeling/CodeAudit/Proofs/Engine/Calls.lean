import CodeAudit.Engine.Basic
import Mathlib.Data.List.Forall2

/-!
The calls of an analysis: every rule on every unit, the units in order and on each unit the rules
in order. A call succeeds when it gives findings that are all its rule's own, and then contributes
these findings. Any other call contributes one fault, which says why.
-/

namespace CodeAudit

namespace Outcome

theorem concat_eq (outcomes : List Outcome) :
    concat outcomes =
      ⟨outcomes.flatMap Outcome.findings, outcomes.flatMap Outcome.faults⟩ := by
  induction outcomes with
  | nil => rfl
  | cons first rest ih => exact congrArg (append first) ih

end Outcome

/-- A rule to be run on a unit, which stands at a position of the input. -/
structure Call (Member : Type) where
  position : Nat
  unit : SourceUnit
  rule : Member

namespace Call

def outcome (call : Call Rule) : Outcome :=
  Outcome.ofCall (call.rule.call call.unit)

def findings (call : Call Rule) : List Finding :=
  call.outcome.findings

def faults (call : Call Rule) : List Fault :=
  call.outcome.faults

/-- Whether the rule gives findings on the unit, all of them its own. -/
def succeeds (call : Call Rule) : Bool :=
  match call.rule.run call.unit with
  | .ok findings => findings.all call.rule.info.owns
  | .error _ => false

def given (call : Call Rule) : List Finding :=
  match call.rule.run call.unit with
  | .ok findings => findings
  | .error _ => []

/-- Why a call did not succeed: the rule failed, or a finding is not its own. -/
def Reason (call : Call Rule) (kind : FaultKind) (message : String) : Prop :=
  match call.rule.run call.unit with
  | .error (.error reported) => kind = .error ∧ message = reported
  | .error (.panic payload place) => kind = .panic ∧ message = payload.report place
  | .ok findings => kind = .contract ∧ ∃ foreign ∈ findings,
      call.rule.info.owns foreign = false ∧
        message = Rule.foreignMessage call.rule.info foreign

/-- The fault names the rule and the unit of the call, and says why the call did not succeed. -/
structure Explains (call : Call Rule) (fault : Fault) : Prop where
  rule : fault.ruleId = call.rule.id
  path : fault.sourcePath = call.unit.path
  reason : call.Reason fault.kind fault.message

/-- What holds of a call that is recorded as a fault for a reason. -/
theorem outcome_of_fault {call : Call Rule} {kind : FaultKind} {message : String}
    (called : call.rule.call call.unit = .error (call.rule.fault call.unit kind message))
    (reason : call.Reason kind message) :
    ∃ fault, call.outcome = ⟨[], [fault]⟩ ∧ call.Explains fault := by
  refine ⟨call.rule.fault call.unit kind message, ?_, rfl, rfl, reason⟩
  rw [outcome, called]
  rfl

/-- A call either succeeds and contributes what its rule gave, or contributes one fault. -/
theorem outcome_cases (call : Call Rule) :
    (call.succeeds = true ∧ call.outcome = ⟨call.given, []⟩ ∧
      ∀ finding ∈ call.given, call.rule.info.owns finding = true) ∨
    (call.succeeds = false ∧ ∃ fault, call.outcome = ⟨[], [fault]⟩ ∧ call.Explains fault) := by
  cases ran : call.rule.run call.unit with
  | error failure =>
      right
      refine ⟨by simp [succeeds, ran], ?_⟩
      cases failure with
      | error message =>
          exact outcome_of_fault (by rw [Rule.call, Rule.callNoted, ran]) (by simp [Reason, ran])
      | panic payload place =>
          have called : call.rule.call call.unit =
              .error (call.rule.fault call.unit .panic (payload.report place)) := by
            simp only [Rule.call, Rule.callNoted, ran, Option.or_none]
          exact outcome_of_fault called (by simp [Reason, ran])
  | ok findings =>
      cases found : findings.find? fun finding => !call.rule.info.owns finding with
      | none =>
          left
          have own : ∀ finding ∈ findings, call.rule.info.owns finding = true := by
            simpa using List.find?_eq_none.mp found
          refine ⟨by simpa [succeeds, ran] using own, ?_, by simpa [given, ran] using own⟩
          simp [outcome, given, Rule.call, Rule.callNoted, ran, found, Outcome.ofCall]
      | some foreign =>
          right
          have member := List.mem_of_find?_eq_some found
          have notOwn : call.rule.info.owns foreign = false := by
            simpa using List.find?_some found
          refine ⟨by simpa [succeeds, ran] using ⟨foreign, member, notOwn⟩, ?_⟩
          have called : call.rule.call call.unit = .error (call.rule.fault call.unit .contract
              (Rule.foreignMessage call.rule.info foreign)) := by
            simp only [Rule.call, Rule.callNoted, ran, found]
          refine outcome_of_fault called ?_
          simpa [Reason, ran] using ⟨foreign, member, notOwn, rfl⟩

theorem findings_eq (call : Call Rule) :
    call.findings = if call.succeeds then call.given else [] := by
  rcases call.outcome_cases with ⟨succeeds, outcome, _⟩ | ⟨fails, _, outcome, _⟩
  · simp [findings, succeeds, outcome]
  · simp [findings, fails, outcome]

theorem owns_of_mem_findings {call : Call Rule} {finding : Finding}
    (member : finding ∈ call.findings) : call.rule.info.owns finding = true := by
  rcases call.outcome_cases with ⟨_, outcome, own⟩ | ⟨_, _, outcome, _⟩
  · rw [findings, outcome] at member
    exact own finding member
  · rw [findings, outcome] at member
    cases member

theorem rule_id_of_mem_findings {call : Call Rule} {finding : Finding}
    (member : finding ∈ call.findings) : finding.ruleId = call.rule.id := by
  have own := owns_of_mem_findings member
  simp only [RuleInfo.owns, Bool.and_eq_true, beq_iff_eq] at own
  exact own.1.1

theorem explains_of_mem_faults {call : Call Rule} {fault : Fault} (member : fault ∈ call.faults) :
    call.Explains fault := by
  rcases call.outcome_cases with ⟨_, outcome, _⟩ | ⟨_, only, outcome, explains⟩
  · rw [faults, outcome] at member
    cases member
  · rw [faults, outcome, List.mem_singleton] at member
    exact member ▸ explains

/-- The faults of a list of calls are one for each call that does not succeed, in order. -/
theorem faults_explain_failures (calls : List (Call Rule)) :
    List.Forall₂ Explains (calls.filter fun call => !call.succeeds) (calls.flatMap faults) := by
  induction calls with
  | nil => exact List.Forall₂.nil
  | cons call rest ih =>
      rw [List.flatMap_cons]
      rcases call.outcome_cases with ⟨succeeds, outcome, _⟩ | ⟨fails, fault, outcome, explains⟩
      · rw [List.filter_cons_of_neg (by simp [succeeds]), faults, outcome]
        exact ih
      · rw [List.filter_cons_of_pos (by simp [fails]), faults, outcome]
        exact List.Forall₂.cons explains ih

end Call

/-- What the successful ones among the calls found. -/
def successFindings (calls : List (Call Rule)) : List Finding :=
  (calls.filter Call.succeeds).flatMap Call.given

theorem flat_map_findings (calls : List (Call Rule)) :
    calls.flatMap Call.findings = successFindings calls := by
  induction calls with
  | nil => rfl
  | cons call rest ih =>
      rw [List.flatMap_cons, ih, Call.findings_eq, successFindings, successFindings]
      cases succeeds : call.succeeds with
      | true => rw [List.filter_cons_of_pos succeeds, List.flatMap_cons, if_pos rfl]
      | false => simp [succeeds]

def callsFrom {Member : Type} (rules : List Member) : Nat → List SourceUnit → List (Call Member)
  | _, [] => []
  | position, unit :: rest =>
      rules.map (Call.mk position unit) ++ callsFrom rules (position + 1) rest

theorem mem_calls_from {Member : Type} {rules : List Member} {position : Nat}
    {units : List SourceUnit} {call : Call Member} :
    call ∈ callsFrom rules position units ↔ call.rule ∈ rules ∧
      ∃ index, units[index]? = some call.unit ∧ call.position = position + index := by
  induction units generalizing position with
  | nil => simp [callsFrom]
  | cons unit rest ih =>
      rw [callsFrom, List.mem_append, List.mem_map, ih]
      constructor
      · rintro (⟨rule, member, rfl⟩ | ⟨member, index, found, place⟩)
        · exact ⟨member, 0, rfl, rfl⟩
        · exact ⟨member, index + 1, found, by omega⟩
      · rintro ⟨member, index, found, place⟩
        cases index with
        | zero =>
            left
            refine ⟨call.rule, member, ?_⟩
            obtain ⟨callPosition, callUnit, callRule⟩ := call
            simp_all
        | succ index => exact Or.inr ⟨member, index, found, by omega⟩

def Call.map {Member Other : Type} (change : Member → Other) (call : Call Member) : Call Other :=
  ⟨call.position, call.unit, change call.rule⟩

theorem calls_from_map {Member Other : Type} (change : Member → Other) (rules : List Member)
    (position : Nat) (units : List SourceUnit) :
    callsFrom (rules.map change) position units =
      (callsFrom rules position units).map (Call.map change) := by
  induction units generalizing position with
  | nil => rfl
  | cons unit rest ih =>
      rw [callsFrom, callsFrom, ih, List.map_append, List.map_map, List.map_map]
      rfl

/-- What calls made one after the other contribute, with what the thread keeps between them. -/
def settle {Member : Type} [Callable Member] :
    Callable.Kept Member → List (Call Member) → Outcome
  | _, [] => Outcome.empty
  | kept, call :: rest =>
      let called := Callable.call call.rule call.unit kept
      Outcome.append (Outcome.ofCall called.1) (settle called.2 rest)

/-- Calls that leave nothing on the thread contribute each on its own. -/
theorem settle_rules (calls : List (Call Rule)) (kept : Callable.Kept Rule) :
    settle kept calls = ⟨calls.flatMap Call.findings, calls.flatMap Call.faults⟩ := by
  induction calls generalizing kept with
  | nil => rfl
  | cons call rest ih => exact congrArg (Outcome.append call.outcome) (ih ())

namespace Engine

/-- All calls over the units, in the order in which they are made. -/
def calls (engine : Engine) (units : List SourceUnit) : List (Call Rule) :=
  callsFrom engine.registry.rules 0 units

theorem analyze_unit_eq (engine : Engine) (position : Nat) (unit : SourceUnit) :
    engine.analyzeUnit unit =
      ⟨(engine.registry.rules.map (Call.mk position unit)).flatMap Call.findings,
        (engine.registry.rules.map (Call.mk position unit)).flatMap Call.faults⟩ := by
  rw [analyzeUnit, Outcome.concat_eq]
  simp only [List.flatMap_map]
  rfl

theorem concat_analyze_unit (engine : Engine) (position : Nat) (units : List SourceUnit) :
    Outcome.concat (units.map engine.analyzeUnit) =
      ⟨(callsFrom engine.registry.rules position units).flatMap Call.findings,
        (callsFrom engine.registry.rules position units).flatMap Call.faults⟩ := by
  induction units generalizing position with
  | nil => rfl
  | cons unit rest ih =>
      rw [callsFrom, List.flatMap_append, List.flatMap_append, List.map_cons,
        engine.analyze_unit_eq position unit]
      exact congrArg (Outcome.append _) (ih (position + 1))

theorem analyze_all_flat_map (engine : Engine) (units : List SourceUnit) :
    engine.analyzeAll units =
      ⟨units.flatMap fun unit => (engine.analyzeUnit unit).findings,
        units.flatMap fun unit => (engine.analyzeUnit unit).faults⟩ := by
  rw [analyzeAll, Outcome.concat_eq]
  simp only [List.flatMap_map]

theorem analyze_all_eq (engine : Engine) (units : List SourceUnit) :
    engine.analyzeAll units =
      ⟨(engine.calls units).flatMap Call.findings, (engine.calls units).flatMap Call.faults⟩ :=
  engine.concat_analyze_unit 0 units

end Engine
end CodeAudit
