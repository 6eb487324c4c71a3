import CodeAudit.Proofs.Engine.Draining
import CodeAudit.Proofs.Rule.Registration
import Mathlib.Data.List.Pairwise

/-!
Isolation of rules. What a call contributes carries the identifier of its rule, and identifiers in
a registry are distinct. So whatever a rule does, the other rules find what they find without it,
and fail where they fail without it. Their faults are the same but for one thing: a panic that was
raised and caught in one call stays noted, and the next call that unwinds without a note of its own
reports that place.
-/

namespace CodeAudit

theorem filter_of_owner {Item : Type} {owner : Item → String} {items : List Item} {id : String}
    (own : ∀ item ∈ items, owner item = id) (chosen : String → Bool) :
    items.filter (fun item => chosen (owner item)) = if chosen id then items else [] := by
  cases other : chosen id with
  | true =>
      rw [if_pos rfl, List.filter_eq_self]
      intro item member
      rw [own item member]
      exact other
  | false =>
      rw [if_neg Bool.false_ne_true, List.filter_eq_nil_iff]
      intro item member
      rw [own item member, other]
      exact Bool.false_ne_true

/-- What belongs to chosen identifiers is what the calls of the rules under them give. -/
theorem filter_owned {Item : Type} (contribute : Call Rule → List Item) (owner : Item → String)
    (own : ∀ call, ∀ item ∈ contribute call, owner item = call.rule.id) (chosen : String → Bool)
    (calls : List (Call Rule)) :
    (calls.flatMap contribute).filter (fun item => chosen (owner item)) =
      (calls.filter fun call => chosen call.rule.id).flatMap contribute := by
  induction calls with
  | nil => rfl
  | cons call rest ih =>
      rw [List.flatMap_cons, List.filter_append, ih, filter_of_owner (own call) chosen,
        List.filter_cons]
      split
      · rw [List.flatMap_cons]
      · rfl

theorem filter_calls_from {Member : Type} (keep : Member → Bool) (rules : List Member)
    (position : Nat) (units : List SourceUnit) :
    (callsFrom rules position units).filter (fun call => keep call.rule) =
      callsFrom (rules.filter keep) position units := by
  induction units generalizing position with
  | nil => rfl
  | cons unit rest ih =>
      rw [callsFrom, callsFrom, List.filter_append, ih, List.filter_map]
      rfl

/-- Of items with distinct keys, those with another key than one of them are all the others. -/
theorem filter_other_keys {Item Key : Type} [DecidableEq Key] (key : Item → Key)
    {items before after : List Item} {item : Item} (distinct : (items.map key).Nodup)
    (holds : items = before ++ item :: after) :
    items.filter (fun other => key other != key item) = before ++ after := by
  rw [holds, List.map_append, List.map_cons, List.nodup_middle, List.nodup_cons] at distinct
  have different : ∀ other ∈ before ++ after, (key other != key item) = true := by
    intro other member
    rw [bne_iff_ne]
    intro same
    rw [← List.map_append, ← same] at distinct
    exact distinct.1 (List.mem_map_of_mem member)
  rw [holds, List.filter_append, List.filter_cons_of_neg (by simp), ← List.filter_append,
    List.filter_eq_self]
  exact different

namespace Registry

theorem exists_unique_owner {registry : Registry} (distinct : registry.Distinct) {rule : Rule}
    (member : rule ∈ registry.rules) {finding : Finding} (owns : rule.info.owns finding = true) :
    ∃! index : Fin registry.rules.length, (registry.rules.get index).info.owns finding = true := by
  obtain ⟨index, rfl⟩ := List.mem_iff_get.mp member
  refine ⟨index, owns, ?_⟩
  intro other otherOwns
  have sameId : (registry.rules.get other).id = (registry.rules.get index).id := by
    simp only [RuleInfo.owns, Bool.and_eq_true, beq_iff_eq] at owns otherOwns
    exact otherOwns.1.1.symm.trans owns.1.1
  have apart := List.pairwise_iff_get.mp (List.pairwise_map.mp distinct.ids)
  rcases Nat.lt_trichotomy other.val index.val with earlier | same | later
  · exact (apart other index earlier sameId).elim
  · exact Fin.ext same
  · exact (apart index other later sameId.symm).elim

end Registry

namespace Rule

/-- Nothing is noted after a call before which nothing was. -/
theorem call_noted_none (rule : Rule) (unit : SourceUnit) :
    rule.callNoted unit none = (rule.call unit, none) := by
  unfold call callNoted
  split
  · rfl
  · rfl
  · split <;> rfl

/-- A call that does not unwind takes no account of what is noted and leaves it. -/
theorem call_noted_cases (rule : Rule) (unit : SourceUnit) :
    ((∀ payload place, rule.run unit ≠ .error (.panic payload place)) ∧
      ∀ noted, rule.callNoted unit noted = (rule.call unit, noted)) ∨
    ∃ payload place, rule.run unit = .error (.panic payload place) ∧
      ∀ noted, rule.callNoted unit noted =
        (.error (rule.fault unit .panic (payload.report (place.or noted))), none) := by
  unfold call callNoted
  cases ran : rule.run unit with
  | error failure =>
      cases failure with
      | error message => exact Or.inl ⟨by simp, fun noted => rfl⟩
      | panic payload place => exact Or.inr ⟨payload, place, rfl, fun noted => rfl⟩
  | ok findings =>
      refine Or.inl ⟨by simp, fun noted => ?_⟩
      dsimp only
      split <;> rfl

end Rule

/-- The same account of a failure, which may differ in where a panic was raised. -/
structure Fault.Alike (first second : Fault) : Prop where
  ruleId : first.ruleId = second.ruleId
  path : first.sourcePath = second.sourcePath
  kind : first.kind = second.kind
  message : first.message = second.message ∨ first.kind = .panic ∧
    ∃ payload place other, first.message = Payload.report payload place ∧
      second.message = Payload.report payload other

theorem Fault.alike_refl (fault : Fault) : fault.Alike fault :=
  ⟨rfl, rfl, rfl, Or.inl rfl⟩

namespace Outcome

def without (outcome : Outcome) (id : String) : Outcome :=
  ⟨outcome.findings.filter fun finding => finding.ruleId != id,
    outcome.faults.filter fun fault => fault.ruleId != id⟩

theorem without_append (first second : Outcome) (id : String) :
    (append first second).without id = append (first.without id) (second.without id) := by
  simp only [without, append, List.filter_append]

structure Alike (first second : Outcome) : Prop where
  findings : first.findings = second.findings
  faults : List.Forall₂ Fault.Alike first.faults second.faults

theorem alike_append {first second third fourth : Outcome} (begins : first.Alike second)
    (ends : third.Alike fourth) : (append first third).Alike (append second fourth) :=
  ⟨congrArg₂ (· ++ ·) begins.findings ends.findings, List.rel_append begins.faults ends.faults⟩

theorem owner_of_call (rule : Rule) (unit : SourceUnit) (noted : Option String) :
    (∀ finding ∈ (ofCall (rule.callNoted unit noted).1).findings, finding.ruleId = rule.id) ∧
      ∀ fault ∈ (ofCall (rule.callNoted unit noted).1).faults, fault.ruleId = rule.id := by
  rcases rule.call_noted_cases unit with ⟨_, called⟩ | ⟨payload, place, _, called⟩
  · have alone : ofCall (rule.callNoted unit noted).1 = Call.outcome ⟨0, unit, rule⟩ := by
      rw [called]
      rfl
    rw [alone]
    exact ⟨fun _ => Call.rule_id_of_mem_findings,
      fun _ member => (Call.explains_of_mem_faults member).rule⟩
  · rw [called]
    refine ⟨fun _ member => (List.not_mem_nil member).elim, fun fault member => ?_⟩
    rw [List.mem_singleton.mp member]
    rfl

theorem without_of_call (rule : Rule) (unit : SourceUnit) (noted : Option String) (id : String) :
    (ofCall (rule.callNoted unit noted).1).without id =
      if rule.id != id then ofCall (rule.callNoted unit noted).1 else empty := by
  obtain ⟨ownFindings, ownFaults⟩ := owner_of_call rule unit noted
  have findings := filter_of_owner ownFindings fun other => other != id
  have faults := filter_of_owner ownFaults fun other => other != id
  rw [without, findings, faults]
  split <;> rfl

end Outcome

/-- What two calls contribute differs at most in a place that was noted before. -/
theorem Rule.alike_of_calls (rule : Rule) (unit : SourceUnit) (noted other : Option String) :
    (Outcome.ofCall (rule.callNoted unit noted).1).Alike
      (Outcome.ofCall (rule.callNoted unit other).1) := by
  rcases rule.call_noted_cases unit with ⟨_, called⟩ | ⟨payload, place, _, called⟩
  · rw [called, called]
    exact ⟨rfl, List.forall₂_same.mpr fun fault _ => fault.alike_refl⟩
  · rw [called, called]
    refine ⟨rfl, List.Forall₂.cons ?_ List.Forall₂.nil⟩
    exact ⟨rfl, rfl, rfl, Or.inr ⟨rfl, payload, place.or noted, place.or other, rfl, rfl⟩⟩

/-- What holds, call by call, of the other rules alone and of the other rules in a run with all,
holds of both runs. The relation `Same` of what is noted in the two is kept along the way. -/
theorem settle_others (Rel : Outcome → Outcome → Prop) (Same : Option String → Option String → Prop)
    (empty : Rel Outcome.empty Outcome.empty)
    (append : ∀ {first second third fourth}, Rel first second → Rel third fourth →
      Rel (Outcome.append first third) (Outcome.append second fourth))
    {id : String} {calls : List (Call CatchingRule)}
    (left : ∀ call ∈ calls, call.rule.id = id → ∀ alone among, Same alone among →
      Same alone (Callable.call call.rule call.unit among).2)
    (kept : ∀ call ∈ calls, call.rule.id ≠ id → ∀ alone among, Same alone among →
      Rel (Outcome.ofCall (Callable.call call.rule call.unit alone).1)
          (Outcome.ofCall (Callable.call call.rule call.unit among).1) ∧
        Same (Callable.call call.rule call.unit alone).2
          (Callable.call call.rule call.unit among).2)
    {alone among : Option String} (same : Same alone among) :
    Rel (settle alone (calls.filter fun call => call.rule.id != id))
      ((settle among calls).without id) := by
  induction calls generalizing alone among with
  | nil => exact empty
  | cons call rest ih =>
      have leftRest := fun other member => left other (List.mem_cons_of_mem call member)
      have keptRest := fun other member => kept other (List.mem_cons_of_mem call member)
      rw [settle, Outcome.without_append]
      by_cases own : call.rule.id = id
      · have nothing : (Outcome.ofCall (Callable.call call.rule call.unit among).1).without id =
            Outcome.empty := by
          rw [← own]
          exact (Outcome.without_of_call _ _ _ _).trans (if_neg (by simp))
        rw [List.filter_cons_of_neg (by simp [own]), nothing]
        exact ih leftRest keptRest (left call List.mem_cons_self own alone among same)
      · have whole : (Outcome.ofCall (Callable.call call.rule call.unit among).1).without id =
            Outcome.ofCall (Callable.call call.rule call.unit among).1 :=
          (Outcome.without_of_call _ _ _ _).trans (if_pos (by simpa using own))
        obtain ⟨related, next⟩ := kept call List.mem_cons_self own alone among same
        rw [List.filter_cons_of_pos (by simpa using own), settle, whole]
        exact append related (ih leftRest keptRest next)

/-- Rules find the same whatever is noted. -/
theorem findings_settle (calls : List (Call CatchingRule)) (noted : Option String) :
    (settle noted calls).findings =
      (calls.map (Call.map CatchingRule.toRule)).flatMap Call.findings := by
  induction calls generalizing noted with
  | nil => rfl
  | cons call rest ih =>
      have alike := call.rule.alike_of_calls call.unit
        ((call.rule.caught call.unit).getLast?.or noted) none
      rw [Rule.call_noted_none] at alike
      rw [settle, List.map_cons, List.flatMap_cons, Outcome.append, ih]
      exact congrArg (· ++ _) alike.findings

namespace Rule

def uncaught (rule : Rule) : CatchingRule :=
  ⟨rule, fun _ => []⟩

theorem settle_uncaught (calls : List (Call Rule)) (kept : Callable.Kept Rule) :
    settle none (calls.map (Call.map uncaught)) = settle kept calls := by
  induction calls generalizing kept with
  | nil => rfl
  | cons call rest ih =>
      have called : Callable.call (Call.map uncaught call).rule (Call.map uncaught call).unit none =
          (call.rule.call call.unit, none) := call_noted_none call.rule call.unit
      rw [List.map_cons, settle, called, ih kept]
      rfl

/-- Rules that catch nothing run as if nothing were ever noted. -/
theorem drain_uncaught (rules : List Rule) (units : List SourceUnit) :
    let noting := (Analysis.start (rules.map uncaught) units).drain
    let analysis := (Analysis.start rules units).drain
    noting.1 = analysis.1 ∧ noting.2.faults = analysis.2.faults ∧
      noting.2.unitsAnalyzed = analysis.2.unitsAnalyzed := by
  intro noting analysis
  have same : (⟨noting.1, noting.2.faults⟩ : Outcome) = ⟨analysis.1, analysis.2.faults⟩ := by
    have settled := Analysis.settle_eq_drain none (rules.map uncaught) units
    rw [calls_from_map, settle_uncaught _ Callable.nothing] at settled
    exact settled.symm.trans (Analysis.settle_eq_drain Callable.nothing rules units)
  refine ⟨congrArg Outcome.findings same, congrArg Outcome.faults same, ?_⟩
  exact (Analysis.units_analyzed_drain Callable.nothing (rules.map uncaught) units).trans
    (Analysis.units_analyzed_drain Callable.nothing rules units).symm

end Rule

namespace CatchingRule

/-- The call unwinds with no panic of its own noted, and so takes what was noted before it. -/
def Takes (rule : CatchingRule) (unit : SourceUnit) : Prop :=
  rule.caught unit = [] ∧ ∃ payload, rule.run unit = .error (.panic payload none)

/-- The call does not unwind, and so leaves the last panic that it caught noted. -/
def Leaves (rule : CatchingRule) (unit : SourceUnit) : Prop :=
  rule.caught unit ≠ [] ∧ ∀ payload place, rule.run unit ≠ .error (.panic payload place)

variable {rule : CatchingRule} {unit : SourceUnit}

theorem call_of_not_takes (other : ¬rule.Takes unit) (first second : Option String) :
    (Callable.call rule unit first).1 = (Callable.call rule unit second).1 := by
  have called : ∀ noted, Callable.call rule unit noted =
      rule.callNoted unit ((rule.caught unit).getLast?.or noted) := fun _ => rfl
  rw [called, called]
  rcases rule.call_noted_cases unit with ⟨_, result⟩ | ⟨payload, place, ran, result⟩
  · rw [result, result]
  · rw [result, result]
    cases place with
    | some place => rfl
    | none =>
        cases last : (rule.caught unit).getLast? with
        | some place => rfl
        | none => exact (other ⟨List.getLast?_eq_none_iff.mp last, payload, ran⟩).elim

theorem kept_of_not_leaves (other : ¬rule.Leaves unit) :
    (Callable.call rule unit none).2 = none := by
  have called : Callable.call rule unit none =
      rule.callNoted unit ((rule.caught unit).getLast?.or none) := rfl
  rw [called]
  rcases rule.call_noted_cases unit with ⟨through, result⟩ | ⟨payload, place, ran, result⟩
  · rw [result]
    by_cases quiet : rule.caught unit = []
    · rw [quiet]
      rfl
    · exact (other ⟨quiet, through⟩).elim
  · rw [result]

theorem settle_alike (calls : List (Call CatchingRule)) (id : String)
    (alone among : Option String) :
    (settle alone (calls.filter fun call => call.rule.id != id)).Alike
      ((settle among calls).without id) := by
  apply settle_others Outcome.Alike (fun _ _ => True) ⟨rfl, List.Forall₂.nil⟩ Outcome.alike_append
  · intros
    trivial
  · intro call _ _ first second _
    exact ⟨call.rule.alike_of_calls call.unit _ _, trivial⟩
  · trivial

/-- For a place to get into the fault of another call, one call has to leave it and the other has
to take it. -/
theorem settle_eq {calls : List (Call CatchingRule)} {id : String} {noted : Option String}
    (apart : (noted = none ∧ ∀ call ∈ calls, ¬call.rule.Leaves call.unit) ∨
      ∀ call ∈ calls, call.rule.id ≠ id → ¬call.rule.Takes call.unit) :
    settle noted (calls.filter fun call => call.rule.id != id) =
      (settle noted calls).without id := by
  rcases apart with ⟨rfl, leaves⟩ | takes
  · apply settle_others Eq (fun alone among => alone = none ∧ among = none) rfl
      (fun first second => congrArg₂ Outcome.append first second)
    · rintro call member _ alone among ⟨rfl, rfl⟩
      exact ⟨rfl, kept_of_not_leaves (leaves call member)⟩
    · rintro call member _ alone among ⟨rfl, rfl⟩
      exact ⟨rfl, kept_of_not_leaves (leaves call member), kept_of_not_leaves (leaves call member)⟩
    · exact ⟨rfl, rfl⟩
  · apply settle_others Eq (fun _ _ => True) rfl
      (fun first second => congrArg₂ Outcome.append first second)
    · intros
      trivial
    · intro call member other alone among _
      rw [call_of_not_takes (takes call member other) alone among]
      exact ⟨rfl, trivial⟩
    · trivial

theorem mem_calls {rules : List CatchingRule} {units : List SourceUnit}
    {call : Call CatchingRule} (member : call ∈ callsFrom rules 0 units) :
    call.rule ∈ rules ∧ call.unit ∈ units := by
  obtain ⟨isRule, index, found, _⟩ := mem_calls_from.mp member
  exact ⟨isRule, List.mem_of_getElem? found⟩

section Registered

variable {rules before after : List CatchingRule} {rule : CatchingRule}

theorem filter_others (distinct : (Registry.mk (rules.map toRule)).Distinct)
    (holds : rules = before ++ rule :: after) :
    rules.filter (fun other => other.id != rule.id) = before ++ after := by
  have ids := distinct.ids
  rw [Registry.ids, List.map_map] at ids
  exact filter_other_keys (fun other : CatchingRule => other.id) ids holds

theorem calls_of_others (distinct : (Registry.mk (rules.map toRule)).Distinct)
    (holds : rules = before ++ rule :: after) (units : List SourceUnit) :
    callsFrom (before ++ after) 0 units =
      (callsFrom rules 0 units).filter fun call => call.rule.id != rule.id := by
  rw [filter_calls_from (fun other : CatchingRule => other.id != rule.id),
    filter_others distinct holds]

theorem distinct_of_others (distinct : (Registry.mk (rules.map toRule)).Distinct)
    (holds : rules = before ++ rule :: after) :
    (Registry.mk ((before ++ after).map toRule)).Distinct := by
  have fewer : (before ++ after).Sublist rules := by
    rw [holds]
    exact (List.Sublist.refl before).append (List.sublist_cons_self rule after)
  exact Registry.distinct_of_sublist distinct (fewer.map toRule)

theorem apart_of_calls (distinct : (Registry.mk (rules.map toRule)).Distinct)
    (holds : rules = before ++ rule :: after) {noted : Option String} {units : List SourceUnit}
    (apart : (noted = none ∧ ∀ other ∈ rules, ∀ unit ∈ units, ¬other.Leaves unit) ∨
      ∀ other ∈ before ++ after, ∀ unit ∈ units, ¬other.Takes unit) :
    (noted = none ∧ ∀ call ∈ callsFrom rules 0 units, ¬call.rule.Leaves call.unit) ∨
      ∀ call ∈ callsFrom rules 0 units, call.rule.id ≠ rule.id → ¬call.rule.Takes call.unit := by
  rcases apart with ⟨nothing, leaves⟩ | takes
  · refine Or.inl ⟨nothing, fun call member => ?_⟩
    obtain ⟨isRule, isUnit⟩ := mem_calls member
    exact leaves call.rule isRule call.unit isUnit
  · refine Or.inr fun call member other => ?_
    obtain ⟨isRule, isUnit⟩ := mem_calls member
    have isOther : call.rule ∈ before ++ after := by
      rw [← filter_others distinct holds, List.mem_filter]
      exact ⟨isRule, by simpa using other⟩
    exact takes call.rule isOther call.unit isUnit

theorem owned_of_mem_drain (distinct : (Registry.mk (rules.map toRule)).Distinct)
    {noted : Option String} {units : List SourceUnit} {finding : Finding}
    (found : finding ∈ (Analysis.startWith noted rules units).drain.1) :
    ∃! index : Fin (rules.map toRule).length,
      ((rules.map toRule).get index).info.owns finding = true := by
  have findings : (Analysis.startWith noted rules units).drain.1 =
      (callsFrom (rules.map toRule) 0 units).flatMap Call.findings := by
    have settled := findings_settle (callsFrom rules 0 units) noted
    rwa [Analysis.settle_eq_drain, ← calls_from_map] at settled
  rw [findings, List.mem_flatMap] at found
  obtain ⟨call, isCall, given⟩ := found
  exact Registry.exists_unique_owner distinct (mem_calls_from.mp isCall).1
    (Call.owns_of_mem_findings given)

/-- Whatever a rule does, a run without it finds what the other rules find in a run with it, each
finding owned by one rule of the registry alone. It has the faults of the other rules, up to the
place of a panic. They are the same in full if no call leaves a panic noted, or if no call of
another rule takes one that was noted. -/
theorem others_unaffected (built : (Registry.mk (rules.map toRule)).Built)
    (holds : rules = before ++ rule :: after) (noted : Option String) (units : List SourceUnit) :
    let registry : Registry := ⟨rules.map toRule⟩
    let full := (Analysis.startWith noted rules units).drain
    let without := (Analysis.startWith noted (before ++ after) units).drain
    let othersFaults := full.2.faults.filter (fun fault => fault.ruleId != rule.id)
    (Registry.mk ((before ++ after).map toRule)).Built ∧
      without.1 = full.1.filter (fun finding => finding.ruleId != rule.id) ∧
      List.Forall₂ Fault.Alike without.2.faults othersFaults ∧
      ((noted = none ∧ ∀ other ∈ rules, ∀ unit ∈ units, ¬other.Leaves unit) ∨
        (∀ other ∈ before ++ after, ∀ unit ∈ units, ¬other.Takes unit) →
          without.2.faults = othersFaults) ∧
      without.2.unitsAnalyzed = full.2.unitsAnalyzed ∧
      ∀ finding ∈ full.1, ∃! index : Fin registry.rules.length,
        (registry.rules.get index).info.owns finding = true := by
  intro registry full without othersFaults
  have distinct : registry.Distinct := Registry.built_iff_distinct.mp built
  have otherRun := Analysis.settle_eq_drain noted (before ++ after) units
  rw [calls_of_others distinct holds units] at otherRun
  have fullOthers : (settle noted (callsFrom rules 0 units)).without rule.id =
      ⟨full.1.filter fun finding => finding.ruleId != rule.id, othersFaults⟩ := by
    rw [Analysis.settle_eq_drain]
    rfl
  have alike := settle_alike (callsFrom rules 0 units) rule.id noted noted
  rw [otherRun, fullOthers] at alike
  refine ⟨?_, alike.findings, alike.faults, ?_, ?_, fun _ => owned_of_mem_drain distinct⟩
  · exact Registry.built_iff_distinct.mpr (distinct_of_others distinct holds)
  · intro apart
    have same := settle_eq (apart_of_calls distinct holds apart)
    rw [otherRun, fullOthers] at same
    exact congrArg Outcome.faults same
  · exact (Analysis.units_analyzed_drain noted (before ++ after) units).trans
      (Analysis.units_analyzed_drain noted rules units).symm

end Registered

section Sample

/-- Finds something on every unit. -/
def finding : CatchingRule :=
  let info : RuleInfo := ⟨"A", "counts lines", .warning, "Style"⟩
  ⟨⟨info, fun unit => .ok [info.finding unit.path 1 "1 line"]⟩, fun _ => []⟩

/-- Passes its findings off as those of the rule that finds something. -/
def forging : CatchingRule :=
  ⟨⟨⟨"B", "forges findings", .error, "Correctness"⟩,
    fun unit => .ok [finding.info.finding unit.path 2 "forged"]⟩, fun _ => []⟩

/-- Recovers from a panic of its own and finds nothing. -/
def recovering : CatchingRule :=
  ⟨⟨⟨"C", "recovers", .info, "Style"⟩, fun _ => .ok []⟩, fun _ => ["recovering.rs:7:9"]⟩

/-- Resumes a panic that was raised elsewhere. -/
def resuming : CatchingRule :=
  ⟨⟨⟨"D", "resumes", .info, "Style"⟩, fun _ => .error (.panic (.text "broken") none)⟩, fun _ => []⟩

def sampleUnit : SourceUnit :=
  ⟨"u1.rs", ⟨"rust", ["rs"], ["function_item"]⟩, "fn one();", Tree.bare⟩

def sampleRules : List CatchingRule := [recovering, finding, forging, resuming]

theorem sample_built {rules : List CatchingRule} (chosen : rules.Sublist sampleRules) :
    (Registry.mk (rules.map toRule)).Built := by
  have distinct : (Registry.mk (sampleRules.map toRule)).Distinct := by
    refine ⟨?_, by decide⟩
    intro rule member
    simp only [sampleRules, List.map_cons, List.map_nil, List.mem_cons, List.not_mem_nil,
      or_false] at member
    rcases member with rfl | rfl | rfl | rfl
    all_goals exact ⟨by decide +kernel, by decide +kernel⟩
  exact Registry.built_iff_distinct.mpr
    (Registry.distinct_of_sublist distinct (chosen.map toRule))

/-- The forged finding is a fault of the rule that forged it. This fault and the other rule's
finding are the same without the rule that recovers. -/
theorem others_unaffected_sample :
    let full := (Analysis.startWith none [recovering, finding, forging] [sampleUnit]).drain
    let without := (Analysis.startWith none [finding, forging] [sampleUnit]).drain
    (Registry.mk ([recovering, finding, forging].map toRule)).Built ∧
      full.1.length = 1 ∧ full.2.faults.length = 1 ∧
      without.1 = full.1.filter (fun finding => finding.ruleId != recovering.id) ∧
      without.2.faults = full.2.faults.filter (fun fault => fault.ruleId != recovering.id) := by
  intro full without
  have built : (Registry.mk ([recovering, finding, forging].map toRule)).Built :=
    sample_built (by simp [sampleRules])
  have holds : [recovering, finding, forging] = [] ++ recovering :: [finding, forging] := rfl
  have found : full.1 = _ :=
    Analysis.findings_drain none [recovering, finding, forging] [sampleUnit]
  have failed : full.2.faults = _ :=
    Analysis.faults_drain none [recovering, finding, forging] [sampleUnit]
  obtain ⟨_, findings, _, faults, _⟩ := others_unaffected built holds none [sampleUnit]
  refine ⟨built, ?_, ?_, findings, faults (Or.inr ?_)⟩
  · rw [found]
    decide +kernel
  · rw [failed]
    decide +kernel
  · intro other member unit _ takes
    obtain ⟨_, _, ran⟩ := takes
    simp only [List.nil_append, List.mem_cons, List.not_mem_nil, or_false] at member
    rcases member with rfl | rfl
    · cases ran
    · cases ran

/-- The panic that one rule recovers from is reported as the place of the panic that the other
resumes, whose fault so depends on the first rule. -/
theorem noted_place_reported_by_other :
    let full := (Analysis.startWith none [recovering, resuming] [sampleUnit]).drain
    let without := (Analysis.startWith none [resuming] [sampleUnit]).drain
    (Registry.mk ([recovering, resuming].map toRule)).Built ∧
      full.2.faults = [⟨"D", "u1.rs", .panic, "broken (at recovering.rs:7:9)"⟩] ∧
      without.2.faults = [⟨"D", "u1.rs", .panic, "broken"⟩] ∧
      without.2.faults ≠ full.2.faults.filter (fun fault => fault.ruleId != recovering.id) := by
  intro full without
  have failed : full.2.faults = _ :=
    Analysis.faults_drain none [recovering, resuming] [sampleUnit]
  have failedAlone : without.2.faults = _ := Analysis.faults_drain none [resuming] [sampleUnit]
  refine ⟨sample_built (by simp [sampleRules]), ?_, ?_, ?_⟩
  · rw [failed]
    decide +kernel
  · rw [failedAlone]
    decide +kernel
  · rw [failed, failedAlone]
    decide +kernel

end Sample

end CatchingRule
end CodeAudit
