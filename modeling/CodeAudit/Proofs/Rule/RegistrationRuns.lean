import CodeAudit.Proofs.Rule.Registration
import CodeAudit.Rule.Registrar

/-!
Runs of registrations. On a registrar whose set of identifiers is that of its rules an attempt does
what plain registration does, and leaves the two in step again. So they are in step after any run,
whichever of its attempts were refused, and the rules are those of the attempts that succeeded.
-/

namespace CodeAudit

namespace Registry

theorem ids_append (rules : List Rule) (rule : Rule) :
    ids ⟨rules ++ [rule]⟩ = ids ⟨rules⟩ ++ [rule.id] :=
  List.map_append

/-- Where identifiers are distinct, a lookup finds the rule that stands under the identifier. -/
theorem get?_eq_some_iff {registry : Registry} (distinct : registry.Distinct) {id : String}
    {rule : Rule} : registry.get? id = some rule ↔ rule ∈ registry.rules ∧ rule.id = id := by
  unfold get?
  constructor
  · intro found
    have same := List.find?_some found
    rw [beq_iff_eq] at same
    exact ⟨List.mem_of_find?_eq_some found, same⟩
  · rintro ⟨member, rfl⟩
    cases found : registry.rules.find? fun other => other.id == rule.id with
    | none =>
        have absent := List.find?_eq_none.mp found rule member
        simp at absent
    | some other =>
        have same := List.find?_some found
        rw [beq_iff_eq] at same
        have inRules := List.mem_of_find?_eq_some found
        rw [List.inj_on_of_nodup_map distinct.ids inRules member same]

end Registry

namespace Registrar

namespace Attempt

def id : Attempt → String
  | .rule asked => asked.id
  | .pattern definition => definition.id

def category : Attempt → String
  | .rule asked => asked.info.category
  | .pattern definition => definition.category

/-- The rule that is to be added. -/
def asked : Attempt → Except RegistrationError Rule
  | .rule asked => .ok asked
  | .pattern definition => Pattern.rule definition

/-- Only the severity and the expression of a pattern may be beyond reading. -/
def Readable : Attempt → Prop
  | .rule _ => True
  | .pattern definition =>
      (∃ severity, Severity.ofName? definition.severity = some severity) ∧
        ∃ regex, Regex.ofText definition.pattern = .ok regex

theorem readable_iff (attempt : Attempt) :
    attempt.Readable ↔ ∃ rule, attempt.asked = .ok rule := by
  cases attempt with
  | rule asked => exact ⟨fun _ => ⟨asked, rfl⟩, fun _ => trivial⟩
  | pattern definition =>
      simp only [Readable, asked, Pattern.rule]
      cases severity : Severity.ofName? definition.severity with
      | none => simp
      | some severity =>
          cases regex : Regex.ofText definition.pattern with
          | error reason => simp
          | ok regex => simp

theorem info_of_asked {attempt : Attempt} {rule : Rule} (asks : attempt.asked = .ok rule) :
    rule.id = attempt.id ∧ rule.info.category = attempt.category := by
  cases attempt with
  | rule asked =>
      cases asks
      exact ⟨rfl, rfl⟩
  | pattern definition => exact Pattern.info_of_rule asks

theorem ids_of_asked {attempts : List Attempt} {rules : List Rule}
    (asked : List.Forall₂ (fun attempt rule => attempt.asked = .ok rule) attempts rules) :
    rules.map Rule.id = attempts.map id := by
  induction asked with
  | nil => rfl
  | cons asks _ ih => rw [List.map_cons, List.map_cons, ih, (info_of_asked asks).1]

end Attempt

/-- The set holds the identifiers of the rules, which are named and distinct. -/
structure InStep (registrar : Registrar) : Prop where
  distinct : registrar.registry.Distinct
  taken : ∀ id, id ∈ registrar.taken ↔ id ∈ registrar.registry.ids

theorem in_step_empty : empty.InStep :=
  ⟨Registry.distinct_of_built Registry.Built.empty,
    fun id => by simp [empty, registry, Registry.ids]⟩

def adding (registrar : Registrar) (rule : Rule) : Registrar :=
  ⟨registrar.rules ++ [rule], registrar.taken.insert rule.id⟩

theorem attempt_pattern (registrar : Registrar) (definition : PatternDefinition) :
    registrar.attempt (.pattern definition) =
      match Pattern.rule definition with
      | .error reason => (.error reason, registrar)
      | .ok rule => registrar.attempt (.rule rule) := by
  change StateT.run (ExceptT.run (registerPattern definition)) registrar = _
  unfold registerPattern
  cases Pattern.rule definition with
  | error reason => rfl
  | ok rule => rfl

/-- In step, a registrar accepts and refuses as the registry of its rules does. -/
theorem attempt_rule {registrar : Registrar} (inStep : registrar.InStep) (asked : Rule) :
    registrar.attempt (.rule asked) =
      match registrar.registry.register asked with
      | .error reason => (.error reason, registrar)
      | .ok _ => (.ok (), registrar.adding asked) := by
  have sameIds : registrar.taken.contains asked.info.id =
      registrar.registry.ids.contains asked.info.id := by
    rw [Bool.eq_iff_iff, Std.HashSet.contains_iff_mem, List.contains_iff_mem]
    exact inStep.taken asked.info.id
  change StateT.run (ExceptT.run (register asked)) registrar = _
  rw [Registry.register, ← sameIds]
  unfold register
  cases Text.isBlankText asked.info.id with
  | true => rfl
  | false =>
      cases Text.isBlankText asked.info.category with
      | true => rfl
      | false =>
          change StateT.run (ExceptT.run
            (if registrar.taken.contains asked.info.id then _ else _)) registrar = _
          cases registrar.taken.contains asked.info.id with
          | true => rfl
          | false => rfl

theorem attempt_eq (registrar : Registrar) (attempt : Attempt) :
    registrar.attempt attempt =
      match attempt.asked with
      | .error reason => (.error reason, registrar)
      | .ok rule => registrar.attempt (.rule rule) := by
  cases attempt with
  | rule asked => rfl
  | pattern definition => exact registrar.attempt_pattern definition

/-- The attempt can be read, its rule is named and the identifier is free. -/
structure Admits (registrar : Registrar) (attempt : Attempt) : Prop where
  readable : attempt.Readable
  id : Text.isBlankText attempt.id = false
  category : Text.isBlankText attempt.category = false
  free : attempt.id ∉ registrar.registry.ids

theorem admits_iff {registrar : Registrar} {attempt : Attempt} {rule : Rule}
    (asks : attempt.asked = .ok rule) :
    registrar.Admits attempt ↔ rule.Named ∧ rule.id ∉ registrar.registry.ids := by
  have ⟨sameId, sameCategory⟩ := Attempt.info_of_asked asks
  constructor
  · intro admits
    refine ⟨⟨?_, ?_⟩, ?_⟩
    · change Text.isBlankText rule.id = false
      rw [sameId]
      exact admits.id
    · rw [sameCategory]
      exact admits.category
    · rw [sameId]
      exact admits.free
  · rintro ⟨named, free⟩
    refine ⟨(Attempt.readable_iff attempt).mpr ⟨rule, asks⟩, ?_, ?_, ?_⟩
    · rw [← sameId]
      exact named.id
    · rw [← sameCategory]
      exact named.category
    · rw [← sameId]
      exact free

theorem in_step_adding {registrar : Registrar} {rule : Rule} (inStep : registrar.InStep)
    (named : rule.Named) (free : rule.id ∉ registrar.registry.ids) :
    (registrar.adding rule).InStep := by
  constructor
  · exact Registry.distinct_register inStep.distinct
      (Registry.register_eq_ok_iff.mpr ⟨named, free, rfl⟩)
  · intro id
    change id ∈ registrar.taken.insert rule.id ↔ id ∈ Registry.ids ⟨registrar.rules ++ [rule]⟩
    rw [Std.HashSet.mem_insert, inStep.taken, Registry.ids_append, List.mem_append,
      List.mem_singleton, beq_iff_eq, eq_comm, or_comm]
    rfl

/-- All that an attempt can do: add the rule it asks for, or be refused and change nothing. -/
theorem attempt_cases {registrar : Registrar} (inStep : registrar.InStep) (attempt : Attempt) :
    (registrar.Admits attempt ∧ ∃ rule, attempt.asked = .ok rule ∧
      registrar.attempt attempt = (.ok (), registrar.adding rule) ∧
      (registrar.adding rule).InStep) ∨
    (¬registrar.Admits attempt ∧
      ∃ reason, registrar.attempt attempt = (.error reason, registrar)) := by
  rw [attempt_eq]
  cases asks : attempt.asked with
  | error reason =>
      right
      refine ⟨?_, reason, rfl⟩
      intro admits
      obtain ⟨rule, made⟩ := (Attempt.readable_iff attempt).mp admits.readable
      rw [asks] at made
      cases made
  | ok rule =>
      rw [admits_iff asks]
      dsimp only
      rw [attempt_rule inStep]
      cases registered : registrar.registry.register rule with
      | error reason =>
          right
          refine ⟨?_, reason, rfl⟩
          rintro ⟨named, free⟩
          rw [Registry.register_eq_ok_iff.mpr ⟨named, free, rfl⟩] at registered
          cases registered
      | ok extended =>
          left
          have ⟨named, free, _⟩ := Registry.register_eq_ok_iff.mp registered
          exact ⟨⟨named, free⟩, rule, rfl, rfl, in_step_adding inStep named free⟩

/-! ## Runs -/

theorem attempt_all_append (registrar : Registrar) (earlier later : List Attempt) :
    registrar.attemptAll (earlier ++ later) =
      let first := registrar.attemptAll earlier
      let second := first.2.attemptAll later
      (first.1 ++ second.1, second.2) := by
  induction earlier generalizing registrar with
  | nil => rfl
  | cons attempt rest ih =>
      simp only [List.cons_append, attemptAll, ih]

/-- The attempts whose results say that they succeeded. -/
def succeeded (attempts : List Attempt) (results : List (Except RegistrationError Unit)) :
    List Attempt :=
  ((attempts.zip results).filter fun (_, result) => result.isOk).map Prod.fst

theorem succeeded_append {attempts : List Attempt}
    {results : List (Except RegistrationError Unit)} (lengths : attempts.length = results.length)
    (attempt : Attempt) (result : Except RegistrationError Unit) :
    succeeded (attempts ++ [attempt]) (results ++ [result]) =
      succeeded attempts results ++ if result.isOk then [attempt] else [] := by
  simp only [succeeded, List.zip_append lengths, List.filter_append, List.map_append]
  cases result with
  | error reason => rfl
  | ok done => rfl

/-- After a run: a result for each attempt, and the rules that the successful ones asked for. -/
structure Follows (attempts : List Attempt)
    (run : List (Except RegistrationError Unit) × Registrar) : Prop where
  lengths : attempts.length = run.1.length
  inStep : run.2.InStep
  rules : List.Forall₂ (fun attempt rule => attempt.asked = .ok rule)
    (succeeded attempts run.1) run.2.rules

theorem follows_attempt {attempts : List Attempt}
    {results : List (Except RegistrationError Unit)} {registrar : Registrar}
    (follows : Follows attempts (results, registrar)) (attempt : Attempt) :
    Follows (attempts ++ [attempt])
      (results ++ [(registrar.attempt attempt).1], (registrar.attempt attempt).2) := by
  have lengths : (attempts ++ [attempt]).length =
      (results ++ [(registrar.attempt attempt).1]).length := by
    simpa using follows.lengths
  rcases attempt_cases follows.inStep attempt with
    ⟨_, rule, asks, attempted, inStep⟩ | ⟨_, reason, attempted⟩
  · refine ⟨lengths, ?_, ?_⟩
    · rw [attempted]
      exact inStep
    · rw [attempted, succeeded_append follows.lengths]
      exact List.rel_append follows.rules (List.Forall₂.cons asks List.Forall₂.nil)
  · refine ⟨lengths, ?_, ?_⟩
    · rw [attempted]
      exact follows.inStep
    · rw [attempted, succeeded_append follows.lengths]
      exact (List.append_nil (succeeded attempts results)).symm ▸ follows.rules

theorem follows_attempt_all (attempts : List Attempt) :
    Follows attempts (empty.attemptAll attempts) := by
  induction attempts using List.reverseRecOn with
  | nil => exact ⟨rfl, in_step_empty, List.Forall₂.nil⟩
  | append_singleton attempts attempt ih =>
      rw [attempt_all_append]
      exact follows_attempt ih attempt

/-- Registration over any run of attempts on an empty registrar. An attempt succeeds just when it
can be read, its rule is named and no earlier one succeeded under its identifier; if it is refused,
nothing changes. What the run leaves are the rules of the attempts that succeeded, in order and
under distinct identifiers, the set of these identifiers, and for each of them its rule. -/
theorem registrations_accounted (earlier later : List Attempt) (attempt : Attempt) :
    let results := (empty.attemptAll earlier).1
    let before := (empty.attemptAll earlier).2
    let result := (before.attempt attempt).1
    let after := (before.attempt attempt).2
    let accepted := succeeded earlier results
    empty.attemptAll (earlier ++ attempt :: later) =
        (results ++ result :: (after.attemptAll later).1, (after.attemptAll later).2) ∧
      (result.isOk = true ↔ attempt.Readable ∧ Text.isBlankText attempt.id = false ∧
        Text.isBlankText attempt.category = false ∧ ∀ other ∈ accepted, other.id ≠ attempt.id) ∧
      (result.isOk = false → after = before) ∧
      results.length = earlier.length ∧
      List.Forall₂ (fun attempt rule => attempt.asked = .ok rule) accepted before.rules ∧
      before.registry.ids = accepted.map Attempt.id ∧
      before.registry.ids.Nodup ∧
      (∀ id, id ∈ before.taken ↔ id ∈ before.registry.ids) ∧
      ∀ id rule, before.registry.get? id = some rule ↔ rule ∈ before.rules ∧ rule.id = id := by
  intro results before result after accepted
  have follows : Follows earlier (results, before) := follows_attempt_all earlier
  have ids : before.registry.ids = accepted.map Attempt.id := Attempt.ids_of_asked follows.rules
  have admits : before.Admits attempt ↔ attempt.Readable ∧ Text.isBlankText attempt.id = false ∧
      Text.isBlankText attempt.category = false ∧ ∀ other ∈ accepted, other.id ≠ attempt.id := by
    have free : attempt.id ∉ before.registry.ids ↔ ∀ other ∈ accepted, other.id ≠ attempt.id := by
      rw [ids]
      simp
    rw [← free]
    exact ⟨fun admits => ⟨admits.readable, admits.id, admits.category, admits.free⟩,
      fun ⟨readable, id, category, free⟩ => ⟨readable, id, category, free⟩⟩
  refine ⟨?_, ?_, ?_, follows.lengths.symm, follows.rules, ids, follows.inStep.distinct.ids,
    follows.inStep.taken, fun _ _ => Registry.get?_eq_some_iff follows.inStep.distinct⟩
  · rw [attempt_all_append]
    rfl
  · rw [← admits]
    rcases attempt_cases follows.inStep attempt with
      ⟨admitted, _, _, attempted, _⟩ | ⟨refused, _, attempted⟩
    · simp [result, attempted, admitted, Except.isOk, Except.toBool]
    · simp [result, attempted, refused, Except.isOk, Except.toBool]
  · intro failed
    rcases attempt_cases follows.inStep attempt with
      ⟨_, _, _, attempted, _⟩ | ⟨_, _, attempted⟩
    · simp [result, attempted, Except.isOk, Except.toBool] at failed
    · exact congrArg Prod.snd attempted

end Registrar
end CodeAudit
