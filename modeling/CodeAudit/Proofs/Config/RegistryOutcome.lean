import CodeAudit.Proofs.Config.ConfiguredRules
import CodeAudit.Proofs.Config.Validity

/-!
Which configurations have a registry. The enabled patterns are added one after another to the
enabled rules that need no definition. All of them are accepted exactly when each can be read and is
named and no identifier is given twice. Otherwise the first that cannot be accepted after those
before it decides the error, and of its faults the one that is looked for first.
-/

namespace CodeAudit

namespace PatternDefinition

structure Sound (definition : PatternDefinition) : Prop where
  severity : ∃ severity, Severity.ofName? definition.severity = some severity
  pattern : ∃ regex, Regex.ofText definition.pattern = .ok regex
  id : Text.isBlankText definition.id = false
  category : Text.isBlankText definition.category = false

/-- Why a definition is refused where some identifiers are taken. Each fault decides only where
those before it are absent. -/
inductive Refused (definition : PatternDefinition) (taken : List String) :
    RegistrationError → Prop where
  | severity (unknown : Severity.ofName? definition.severity = none) :
      Refused definition taken (.invalidSeverity definition.id definition.severity)
  | pattern {severity : Severity} {reason : RegexError}
      (known : Severity.ofName? definition.severity = some severity)
      (invalid : Regex.ofText definition.pattern = .error reason) :
      Refused definition taken (.invalidPattern definition.id reason)
  | emptyId {severity : Severity} {regex : Regex}
      (known : Severity.ofName? definition.severity = some severity)
      (valid : Regex.ofText definition.pattern = .ok regex)
      (blank : Text.isBlankText definition.id = true) : Refused definition taken .emptyId
  | emptyCategory {severity : Severity} {regex : Regex}
      (known : Severity.ofName? definition.severity = some severity)
      (valid : Regex.ofText definition.pattern = .ok regex)
      (named : Text.isBlankText definition.id = false)
      (blank : Text.isBlankText definition.category = true) :
      Refused definition taken (.emptyCategory definition.id)
  | duplicateId (sound : definition.Sound) (repeated : definition.id ∈ taken) :
      Refused definition taken (.duplicateId definition.id)

/-- The definitions are sound, and no identifier is given twice or taken before. -/
structure Consistent (taken : List String) (definitions : List PatternDefinition) : Prop where
  sound : ∀ definition ∈ definitions, definition.Sound
  ids : (taken ++ definitions.map PatternDefinition.id).Nodup

def FirstRefused (taken : List String) (definitions : List PatternDefinition)
    (reason : RegistrationError) : Prop :=
  ∃ earlier definition later, definitions = earlier ++ definition :: later ∧
    Consistent taken earlier ∧
    definition.Refused (taken ++ earlier.map PatternDefinition.id) reason

theorem consistent_nil_iff {taken : List String} : Consistent taken [] ↔ taken.Nodup := by
  constructor
  · intro consistent
    simpa using consistent.ids
  · intro distinct
    exact ⟨by simp, by simpa using distinct⟩

theorem consistent_cons_iff {taken : List String} {definition : PatternDefinition}
    {rest : List PatternDefinition} : Consistent taken (definition :: rest) ↔
      definition.Sound ∧ Consistent (taken ++ [definition.id]) rest := by
  constructor
  · intro consistent
    refine ⟨consistent.sound definition (by simp), ?_, ?_⟩
    · intro other member
      exact consistent.sound other (by simp [member])
    · simpa using consistent.ids
  · rintro ⟨sound, consistent⟩
    refine ⟨?_, by simpa using consistent.ids⟩
    intro other member
    rcases List.mem_cons.mp member with same | later
    · rw [same]
      exact sound
    · exact consistent.sound other later

theorem Consistent.not_taken {taken : List String} {id : String} {rest : List PatternDefinition}
    (consistent : Consistent (taken ++ [id]) rest) : id ∉ taken := by
  have distinct := (List.nodup_append.mp consistent.ids).1
  intro isTaken
  exact (List.nodup_append.mp distinct).2.2 id isTaken id (by simp) rfl

theorem first_refused_cons_iff {taken : List String} {definition : PatternDefinition}
    {rest : List PatternDefinition} {reason : RegistrationError} :
    FirstRefused taken (definition :: rest) reason ↔
      (taken.Nodup ∧ definition.Refused taken reason) ∨
        (definition.Sound ∧ FirstRefused (taken ++ [definition.id]) rest reason) := by
  constructor
  · rintro ⟨earlier, refused, later, split, consistent, why⟩
    cases earlier with
    | nil =>
        simp only [List.nil_append, List.cons.injEq] at split
        rw [← split.1] at why
        exact Or.inl ⟨consistent_nil_iff.mp consistent, by simpa using why⟩
    | cons first earlier =>
        simp only [List.cons_append, List.cons.injEq] at split
        rw [← split.1] at consistent why
        have ⟨sound, others⟩ := consistent_cons_iff.mp consistent
        exact Or.inr ⟨sound, earlier, refused, later, split.2, others, by simpa using why⟩
  · rintro (⟨distinct, why⟩ | ⟨sound, earlier, refused, later, split, consistent, why⟩)
    · exact ⟨[], definition, rest, rfl, consistent_nil_iff.mpr distinct, by simpa using why⟩
    · refine ⟨definition :: earlier, refused, later, by rw [split]; rfl,
        consistent_cons_iff.mpr ⟨sound, consistent⟩, by simpa using why⟩

theorem Refused.mem_of_sound {definition : PatternDefinition} {taken : List String}
    {reason : RegistrationError} (refused : definition.Refused taken reason)
    (sound : definition.Sound) : definition.id ∈ taken := by
  obtain ⟨level, isKnown⟩ := sound.severity
  obtain ⟨regex, isValid⟩ := sound.pattern
  cases refused with
  | severity unknown => simp [isKnown] at unknown
  | pattern _ invalid => simp [isValid] at invalid
  | emptyId _ _ blank => simp [sound.id] at blank
  | emptyCategory _ _ _ blank => simp [sound.category] at blank
  | duplicateId _ repeated => exact repeated

end PatternDefinition

namespace Registry

open PatternDefinition

variable {registry : Registry} {definition : PatternDefinition} {reason : RegistrationError}

theorem register_pattern_of_readable (registry : Registry) {severity : Severity} {regex : Regex}
    (known : Severity.ofName? definition.severity = some severity)
    (valid : Regex.ofText definition.pattern = .ok regex) :
    ∃ rule : Rule, rule.info.id = definition.id ∧ rule.info.category = definition.category ∧
      registry.registerPattern definition = registry.register rule := by
  cases made : Pattern.rule definition with
  | error reason => simp [Pattern.rule, known, valid] at made
  | ok rule =>
      have ⟨sameId, sameCategory⟩ := Pattern.info_of_rule made
      exact ⟨rule, sameId, sameCategory, by rw [registerPattern, made]; rfl⟩

/-- All that adding a definition can do: add a rule for it, or be refused. -/
theorem register_pattern_cases (registry : Registry) (definition : PatternDefinition) :
    (definition.Sound ∧ definition.id ∉ registry.ids ∧
      ∃ extended, registry.registerPattern definition = .ok extended) ∨
    ∃ reason, registry.registerPattern definition = .error reason ∧
      definition.Refused registry.ids reason := by
  cases known : Severity.ofName? definition.severity with
  | none =>
      right
      exact ⟨_, by simp [registerPattern, Pattern.rule, known, Except.bind], .severity known⟩
  | some severity =>
      cases valid : Regex.ofText definition.pattern with
      | error reason =>
          right
          exact ⟨_, by simp [registerPattern, Pattern.rule, known, valid, Except.bind],
            .pattern known valid⟩
      | ok regex =>
          obtain ⟨rule, sameId, sameCategory, asked⟩ :=
            registry.register_pattern_of_readable known valid
          rw [asked, register, sameId, sameCategory]
          cases named : Text.isBlankText definition.id with
          | true => exact Or.inr ⟨_, rfl, .emptyId known valid named⟩
          | false =>
              cases categorized : Text.isBlankText definition.category with
              | true => exact Or.inr ⟨_, rfl, .emptyCategory known valid named categorized⟩
              | false =>
                  have sound : definition.Sound :=
                    ⟨⟨severity, known⟩, ⟨regex, valid⟩, named, categorized⟩
                  by_cases repeated : definition.id ∈ registry.ids
                  · exact Or.inr ⟨_, by simp [repeated], .duplicateId sound repeated⟩
                  · exact Or.inl ⟨sound, repeated, ⟨registry.rules ++ [rule]⟩, by simp [repeated]⟩

theorem register_pattern_of_refused (refused : definition.Refused registry.ids reason) :
    registry.registerPattern definition = .error reason := by
  cases refused with
  | severity unknown => simp [registerPattern, Pattern.rule, unknown, Except.bind]
  | pattern known invalid => simp [registerPattern, Pattern.rule, known, invalid, Except.bind]
  | emptyId known valid blank =>
      obtain ⟨rule, sameId, _, asked⟩ := registry.register_pattern_of_readable known valid
      simp [asked, register, sameId, blank]
  | emptyCategory known valid named blank =>
      obtain ⟨rule, sameId, sameCategory, asked⟩ :=
        registry.register_pattern_of_readable known valid
      simp [asked, register, sameId, sameCategory, named, blank]
  | duplicateId sound repeated =>
      obtain ⟨severity, known⟩ := sound.severity
      obtain ⟨regex, valid⟩ := sound.pattern
      obtain ⟨rule, sameId, sameCategory, asked⟩ :=
        registry.register_pattern_of_readable known valid
      simp [asked, register, sameId, sameCategory, sound.id, sound.category, repeated]

theorem register_pattern_eq_error_iff :
    registry.registerPattern definition = .error reason ↔
      definition.Refused registry.ids reason := by
  constructor
  · intro failed
    rcases register_pattern_cases registry definition with
      ⟨_, _, _, added⟩ | ⟨found, isError, refused⟩
    · rw [failed] at added
      cases added
    · rw [failed] at isError
      cases isError
      exact refused
  · exact register_pattern_of_refused

theorem exists_register_pattern_iff :
    (∃ extended, registry.registerPattern definition = .ok extended) ↔
      definition.Sound ∧ definition.id ∉ registry.ids := by
  rcases register_pattern_cases registry definition with
    ⟨sound, free, added⟩ | ⟨found, isError, refused⟩
  · exact ⟨fun _ => ⟨sound, free⟩, fun _ => added⟩
  · constructor
    · rintro ⟨extended, added⟩
      rw [isError] at added
      cases added
    · rintro ⟨sound, free⟩
      exact absurd (refused.mem_of_sound sound) free

theorem nodup_of_register_pattern {extended : Registry} (distinct : registry.ids.Nodup)
    (added : registry.registerPattern definition = .ok extended) : extended.ids.Nodup := by
  have free := (exists_register_pattern_iff.mp ⟨extended, added⟩).2
  rw [ids_of_register_pattern added]
  exact distinct.append (List.nodup_singleton _) (by simpa using free)

theorem exists_foldlm_register_pattern_iff {definitions : List PatternDefinition}
    (distinct : registry.ids.Nodup) :
    (∃ extended, definitions.foldlM registerPattern registry = .ok extended) ↔
      Consistent registry.ids definitions := by
  induction definitions generalizing registry with
  | nil =>
      rw [consistent_nil_iff]
      exact ⟨fun _ => distinct, fun _ => ⟨registry, rfl⟩⟩
  | cons definition rest ih =>
      rw [List.foldlM_cons, consistent_cons_iff]
      cases outcome : registry.registerPattern definition with
      | error reason =>
          constructor
          · rintro ⟨_, done⟩
            cases done
          · rintro ⟨sound, consistent⟩
            have refused := register_pattern_eq_error_iff.mp outcome
            exact absurd (refused.mem_of_sound sound) consistent.not_taken
      | ok next =>
          have sound := (exists_register_pattern_iff.mp ⟨next, outcome⟩).1
          have others := ih (nodup_of_register_pattern distinct outcome)
          rw [ids_of_register_pattern outcome] at others
          exact ⟨fun done => ⟨sound, others.mp done⟩, fun facts => others.mpr facts.2⟩

theorem foldlm_register_pattern_eq_error_iff {definitions : List PatternDefinition}
    (distinct : registry.ids.Nodup) :
    definitions.foldlM registerPattern registry = .error reason ↔
      FirstRefused registry.ids definitions reason := by
  induction definitions generalizing registry with
  | nil => simp [FirstRefused, pure, Except.pure]
  | cons definition rest ih =>
      rw [List.foldlM_cons, first_refused_cons_iff]
      cases outcome : registry.registerPattern definition with
      | error found =>
          have refused := register_pattern_eq_error_iff.mp outcome
          constructor
          · intro failed
            cases failed
            exact Or.inl ⟨distinct, refused⟩
          · rintro (⟨_, why⟩ | ⟨sound, _, _, _, _, consistent, _⟩)
            · rw [register_pattern_of_refused why] at outcome
              cases outcome
              rfl
            · exact absurd (refused.mem_of_sound sound) consistent.not_taken
      | ok next =>
          have ⟨sound, free⟩ := exists_register_pattern_iff.mp ⟨next, outcome⟩
          have others := ih (nodup_of_register_pattern distinct outcome)
          rw [ids_of_register_pattern outcome] at others
          constructor
          · intro failed
            exact Or.inr ⟨sound, others.mp failed⟩
          · rintro (⟨_, why⟩ | ⟨_, later⟩)
            · exact absurd (why.mem_of_sound sound) free
            · exact others.mpr later

theorem foldlm_register {rules : List Rule} (named : ∀ rule ∈ rules, rule.Named)
    (distinct : (registry.ids ++ rules.map Rule.id).Nodup) :
    rules.foldlM register registry = .ok ⟨registry.rules ++ rules⟩ := by
  induction rules generalizing registry with
  | nil => simp [pure, Except.pure]
  | cons rule rest ih =>
      have free : rule.id ∉ registry.ids := by
        intro taken
        exact (List.nodup_append.mp distinct).2.2 rule.id taken rule.id (by simp) rfl
      have added := register_eq_ok_iff.mpr ⟨named rule (by simp), free, rfl⟩
      have others := @ih ⟨registry.rules ++ [rule]⟩
        (fun other member => named other (by simp [member])) (by simpa [ids] using distinct)
      rw [List.append_assoc, List.singleton_append] at others
      rw [List.foldlM_cons, added]
      exact others

end Registry

namespace Config

open PatternDefinition

/-- The identifiers of the enabled rules that need no definition. -/
def enabledBuiltinIds (config : Config) : List String :=
  ["long-routine", "too-many-parameters"].filter config.isRuleEnabled

def enabledPatterns (config : Config) : List PatternDefinition :=
  config.patterns.filter fun pattern => config.isRuleEnabled pattern.id

theorem ids_enabled_builtin (config : Config) :
    Registry.ids ⟨config.builtinRules.filter fun rule => config.isRuleEnabled rule.id⟩ =
      config.enabledBuiltinIds := by
  have ids : ["long-routine", "too-many-parameters"] = config.builtinRules.map Rule.id := rfl
  rw [enabledBuiltinIds, ids, List.filter_map]
  rfl

theorem enabled_builtin_nodup (config : Config) : (Registry.ids
    ⟨config.builtinRules.filter fun rule => config.isRuleEnabled rule.id⟩).Nodup := by
  rw [ids_enabled_builtin]
  exact List.Nodup.filter _ (by decide)

theorem builtin_named (config : Config) : ∀ rule ∈ config.builtinRules, rule.Named := by
  have named : ∀ info ∈ [LongRoutine.info, TooManyParameters.info],
      Text.isBlankText info.id = false ∧ Text.isBlankText info.category = false := by
    decide
  intro rule member
  have listed : rule.info ∈ [LongRoutine.info, TooManyParameters.info] :=
    List.mem_map_of_mem member
  exact ⟨(named rule.info listed).1, (named rule.info listed).2⟩

theorem registry_eq (config : Config) :
    config.registry = config.enabledPatterns.foldlM Registry.registerPattern
      ⟨config.builtinRules.filter fun rule => config.isRuleEnabled rule.id⟩ := by
  have added := @Registry.foldlm_register .empty
    (config.builtinRules.filter fun rule => config.isRuleEnabled rule.id)
    (fun rule member => config.builtin_named rule (List.mem_of_mem_filter member))
    config.enabled_builtin_nodup
  rw [registry, added]
  rfl

/-- A configuration has a registry exactly if its enabled patterns are consistent beside the enabled
rules that need no definition, and then the registry lists all of them in order. Otherwise the error
is that of the first pattern that is refused, and it is no blank identifier if the configuration is
valid. -/
theorem registry_outcome (config : Config) :
    ((∃ registry, config.registry = .ok registry) ↔
      Consistent config.enabledBuiltinIds config.enabledPatterns) ∧
    (∀ registry, config.registry = .ok registry →
      registry.ids = config.enabledBuiltinIds ++ config.enabledPatterns.map PatternDefinition.id) ∧
    (∀ reason, config.registry = .error reason ↔
      FirstRefused config.enabledBuiltinIds config.enabledPatterns reason) ∧
    (config.fault? = none → config.registry ≠ .error .emptyId) := by
  have refusal : ∀ reason, config.registry = .error reason ↔
      FirstRefused config.enabledBuiltinIds config.enabledPatterns reason := by
    intro reason
    rw [registry_eq, ← ids_enabled_builtin]
    exact Registry.foldlm_register_pattern_eq_error_iff config.enabled_builtin_nodup
  refine ⟨?_, ?_, refusal, ?_⟩
  · rw [registry_eq, ← ids_enabled_builtin]
    exact Registry.exists_foldlm_register_pattern_iff config.enabled_builtin_nodup
  · intro registry accepted
    rw [ids_of_registry accepted, ← ids_enabled_builtin]
    rfl
  · intro valid failed
    obtain ⟨earlier, definition, later, split, _, refused⟩ := (refusal _).mp failed
    have enabled : definition ∈ config.enabledPatterns := by simp [split]
    have named := (config.fault?_eq_none_iff.mp valid).2 definition
      (List.mem_of_mem_filter enabled)
    cases refused with
    | emptyId _ _ blank =>
        rw [named] at blank
        cases blank

-- A disabled pattern does not count, whether its identifier is taken or it cannot be read.
example : (Config.registry
    { disabledRules := ["long-routine", "broken"]
      patterns := [⟨"long-routine", none, "info", "Size", "x"⟩,
        ⟨"broken", none, "fatal", "Size", "("⟩, ⟨"no-x", none, "info", "Size", "x"⟩] }).toOption.map
      Registry.ids = some ["too-many-parameters", "no-x"] := by
  decide +kernel

end Config
end CodeAudit
