import CodeAudit.Config.Discovery

/-!
Valid configurations. A configuration is valid when no amount is zero and every pattern is named.
Every configuration that a scan or a listing loads is valid.
-/

namespace CodeAudit
namespace Config

theorem fault?_eq_none_iff (config : Config) :
    config.fault? = none ↔ (∀ setting ∈ config.amounts, setting.2 ≠ 0) ∧
      ∀ pattern ∈ config.patterns, Text.isBlankText pattern.id = false := by
  unfold fault?
  cases zero : config.amounts.find? fun setting => setting.2 == 0 with
  | some setting =>
      have member := List.mem_of_find?_eq_some zero
      have isZero : setting.2 = 0 := by simpa using List.find?_some zero
      constructor
      · intro none
        cases none
      · rintro ⟨amounts, _⟩
        exact (amounts setting member isZero).elim
  | none =>
      have amounts : ∀ setting ∈ config.amounts, setting.2 ≠ 0 := by
        simpa using List.find?_eq_none.mp zero
      simp only [Option.map_eq_none_iff, List.findIdx?_eq_none_iff]
      constructor
      · intro named
        exact ⟨amounts, named⟩
      · intro valid
        exact valid.2

theorem fault?_default : ({} : Config).fault? = none := by
  decide

theorem fault?_of_of_text {text : String} {config : Config} (read : ofText text = .ok config) :
    config.fault? = none := by
  unfold ofText at read
  split at read
  · cases read
    exact fault?_default
  · split at read
    · cases read
    · split at read
      · cases read
      · next valid =>
          cases read
          exact valid

theorem fault?_of_of_file {system : FileSystem} {path : String} {config : Config}
    (read : ofFile system path = .ok config) : config.fault? = none := by
  unfold ofFile at read
  split at read
  · cases read
  · next text _ =>
      cases parsed : ofText text with
      | error reason =>
          rw [parsed] at read
          cases read
      | ok found =>
          rw [parsed] at read
          cases read
          exact fault?_of_of_text parsed

theorem fault?_of_load {system : FileSystem} {explicit : Option String} {directory : String}
    {config : Config} (loaded : load system explicit directory = .ok config) :
    config.fault? = none := by
  unfold load at loaded
  split at loaded
  · exact fault?_of_of_file loaded
  · cases loaded
    exact fault?_default

end Config
end CodeAudit
