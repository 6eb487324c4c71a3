import CodeAudit.Rule.Pattern
import Mathlib.Data.List.Induction
import Mathlib.Data.List.Nodup

/-!
Registries that are built by registration. They are exactly those whose rules have an identifier
and a category, with no identifier given twice, so leaving out a rule gives such a registry again.
-/

namespace CodeAudit

theorem Pattern.info_of_rule {definition : PatternDefinition} {rule : Rule}
    (made : Pattern.rule definition = .ok rule) :
    rule.id = definition.id ∧ rule.info.category = definition.category := by
  unfold Pattern.rule at made
  split at made
  · cases made
  · split at made
    · cases made
    · cases made
      exact ⟨rfl, rfl⟩

structure Rule.Named (rule : Rule) : Prop where
  id : Text.isBlankText rule.info.id = false
  category : Text.isBlankText rule.info.category = false

namespace Registry

/-- The registry comes from the empty one by registrations that succeeded. -/
inductive Built : Registry → Prop where
  | empty : Built Registry.empty
  | register {registry extended : Registry} {rule : Rule} (built : Built registry)
      (accepted : registry.register rule = .ok extended) : Built extended
  | registerPattern {registry extended : Registry} {definition : PatternDefinition}
      (built : Built registry) (accepted : registry.registerPattern definition = .ok extended) :
      Built extended

/-- Registration adds a named rule at the end, unless its identifier is taken. -/
theorem register_eq_ok_iff {registry extended : Registry} {rule : Rule} :
    registry.register rule = .ok extended ↔
      rule.Named ∧ rule.id ∉ registry.ids ∧ extended = ⟨registry.rules ++ [rule]⟩ := by
  rw [register]
  split
  · next blank =>
      constructor
      · intro accepted
        cases accepted
      · rintro ⟨named, _⟩
        rw [named.id] at blank
        cases blank
  · next id =>
      split
      · next blank =>
          constructor
          · intro accepted
            cases accepted
          · rintro ⟨named, _⟩
            rw [named.category] at blank
            cases blank
      · next category =>
          rw [Bool.not_eq_true] at id category
          split
          · next taken =>
              constructor
              · intro accepted
                cases accepted
              · rintro ⟨_, free, _⟩
                exact (free (List.contains_iff_mem.mp taken)).elim
          · next free =>
              constructor
              · intro accepted
                cases accepted
                exact ⟨⟨id, category⟩, fun taken => free (List.contains_iff_mem.mpr taken), rfl⟩
              · rintro ⟨_, _, rfl⟩
                rfl

theorem register_of_register_pattern {registry extended : Registry} {definition : PatternDefinition}
    (accepted : registry.registerPattern definition = .ok extended) :
    ∃ rule, Pattern.rule definition = .ok rule ∧ registry.register rule = .ok extended := by
  rw [registerPattern] at accepted
  cases made : Pattern.rule definition with
  | error reason =>
      rw [made] at accepted
      cases accepted
  | ok rule =>
      rw [made] at accepted
      exact ⟨rule, rfl, accepted⟩

/-- The rules are named and no two share an identifier. -/
structure Distinct (registry : Registry) : Prop where
  named : ∀ rule ∈ registry.rules, rule.Named
  ids : registry.ids.Nodup

theorem distinct_register {registry extended : Registry} {rule : Rule}
    (distinct : registry.Distinct) (accepted : registry.register rule = .ok extended) :
    extended.Distinct := by
  obtain ⟨named, free, rfl⟩ := register_eq_ok_iff.mp accepted
  constructor
  · intro other member
    rcases List.mem_append.mp member with old | new
    · exact distinct.named other old
    · rw [List.mem_singleton.mp new]
      exact named
  · rw [ids, List.map_append, List.nodup_append]
    refine ⟨distinct.ids, List.nodup_singleton _, ?_⟩
    intro old inOld new inNew same
    rw [List.map_singleton, List.mem_singleton] at inNew
    exact free (inNew ▸ same ▸ inOld)

theorem distinct_of_built {registry : Registry} (built : registry.Built) : registry.Distinct := by
  induction built with
  | empty => exact ⟨fun _ member => (List.not_mem_nil member).elim, List.nodup_nil⟩
  | register built accepted ih => exact distinct_register ih accepted
  | registerPattern built accepted ih =>
      obtain ⟨rule, _, registered⟩ := register_of_register_pattern accepted
      exact distinct_register ih registered

theorem built_of_distinct {registry : Registry} (distinct : registry.Distinct) :
    registry.Built := by
  obtain ⟨rules⟩ := registry
  induction rules using List.reverseRecOn with
  | nil => exact Built.empty
  | append_singleton rules rule ih =>
      have ids := distinct.ids
      rw [Registry.ids, List.map_append, List.nodup_append] at ids
      obtain ⟨earlier, _, apart⟩ := ids
      have built := ih ⟨fun other member => distinct.named other (List.mem_append_left _ member),
        earlier⟩
      have named := distinct.named rule (by simp)
      have free : rule.id ∉ Registry.ids ⟨rules⟩ := by
        intro taken
        exact apart rule.id taken rule.id (by simp) rfl
      exact built.register (register_eq_ok_iff.mpr ⟨named, free, rfl⟩)

theorem built_iff_distinct {registry : Registry} : registry.Built ↔ registry.Distinct :=
  ⟨distinct_of_built, built_of_distinct⟩

theorem distinct_of_sublist {registry : Registry} {rules : List Rule}
    (distinct : registry.Distinct) (fewer : rules.Sublist registry.rules) :
    Distinct ⟨rules⟩ :=
  ⟨fun rule member => distinct.named rule (fewer.subset member),
    distinct.ids.sublist (fewer.map Rule.id)⟩

end Registry
end CodeAudit
