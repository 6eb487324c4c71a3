import CodeAudit.Config.Basic
import CodeAudit.Proofs.Rule.Registration

/-!
The rules of a configuration. Its registry holds the enabled rules that need no definition and then
those of the enabled patterns, each in the order in which they stand.
-/

namespace CodeAudit

theorem Except.exists_of_bind_eq_ok {Failed First Second : Type} {action : Except Failed First}
    {next : First → Except Failed Second} {result : Second} (done : action >>= next = .ok result) :
    ∃ value, action = .ok value ∧ next value = .ok result := by
  cases action with
  | error reason => cases done
  | ok value => exact ⟨value, rfl, done⟩

namespace Registry

theorem ids_of_register {registry extended : Registry} {rule : Rule}
    (accepted : registry.register rule = .ok extended) :
    extended.ids = registry.ids ++ [rule.id] := by
  obtain ⟨_, _, rfl⟩ := register_eq_ok_iff.mp accepted
  exact List.map_append

theorem ids_of_register_pattern {registry extended : Registry} {definition : PatternDefinition}
    (accepted : registry.registerPattern definition = .ok extended) :
    extended.ids = registry.ids ++ [definition.id] := by
  obtain ⟨rule, made, added⟩ := register_of_register_pattern accepted
  rw [ids_of_register added, (Pattern.info_of_rule made).1]

theorem ids_of_foldlm {Item : Type} {add : Registry → Item → Except RegistrationError Registry}
    (idOf : Item → String) {items : List Item} {registry extended : Registry}
    (accepted : items.foldlM add registry = .ok extended)
    (adds : ∀ {registry extended item}, add registry item = .ok extended →
      extended.ids = registry.ids ++ [idOf item]) :
    extended.ids = registry.ids ++ items.map idOf := by
  induction items generalizing registry with
  | nil =>
      cases accepted
      exact (List.append_nil _).symm
  | cons item rest ih =>
      rw [List.foldlM_cons] at accepted
      obtain ⟨next, added, remaining⟩ := Except.exists_of_bind_eq_ok accepted
      rw [ih remaining, adds added, List.append_assoc, List.singleton_append, List.map_cons]

end Registry

namespace Config

theorem ids_of_registry {config : Config} {registry : Registry}
    (accepted : config.registry = .ok registry) :
    registry.ids =
      (config.builtinRules.filter fun rule => config.isRuleEnabled rule.id).map Rule.id ++
        (config.patterns.filter fun pattern => config.isRuleEnabled pattern.id).map
          PatternDefinition.id := by
  unfold Config.registry at accepted
  obtain ⟨builtin, registered, remaining⟩ := Except.exists_of_bind_eq_ok accepted
  rw [Registry.ids_of_foldlm PatternDefinition.id remaining Registry.ids_of_register_pattern,
    Registry.ids_of_foldlm Rule.id registered Registry.ids_of_register]
  rfl

/-- An identifier that no rule without a definition has comes from an enabled pattern. -/
theorem exists_pattern_of_mem_ids {config : Config} {registry : Registry}
    (accepted : config.registry = .ok registry) {id : String} (member : id ∈ registry.ids)
    (notBuiltin : id ∉ config.builtinRules.map Rule.id) :
    ∃ pattern ∈ config.patterns, config.isRuleEnabled pattern.id = true ∧ pattern.id = id := by
  rw [ids_of_registry accepted, List.mem_append] at member
  rcases member with builtin | configured
  · obtain ⟨rule, enabled, rfl⟩ := List.mem_map.mp builtin
    exact (notBuiltin (List.mem_map_of_mem (List.mem_of_mem_filter enabled))).elim
  · obtain ⟨pattern, enabled, same⟩ := List.mem_map.mp configured
    have ⟨inPatterns, isEnabled⟩ := List.mem_filter.mp enabled
    exact ⟨pattern, inPatterns, isEnabled, same⟩

end Config
end CodeAudit
