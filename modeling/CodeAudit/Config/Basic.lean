import CodeAudit.Clone.Detector
import CodeAudit.Rule.LongRoutine
import CodeAudit.Rule.Parameters
import CodeAudit.Rule.Pattern

/-!
Configurations: what a scan leaves out, which rules it runs and under which limits. A configuration
is valid when no limit is zero and every pattern has an identifier.
-/

namespace CodeAudit

structure DuplicationSettings where
  isEnabled : Bool := true
  thresholds : Thresholds := {}
deriving DecidableEq, Repr

structure RuleLimits where
  lines : Nat := LongRoutine.defaultMaximum
  parameters : Nat := TooManyParameters.defaultMaximum
deriving DecidableEq, Repr

structure Config where
  version : Option String := none
  exclude : List String := []
  isParallel : Bool := false
  disabledRules : List String := []
  duplication : DuplicationSettings := {}
  limits : RuleLimits := {}
  patterns : List PatternDefinition := []
deriving DecidableEq, Repr

inductive ConfigError where
  | zero (setting : String)
  | emptyPatternId (index : Nat)
deriving DecidableEq, Repr

def ConfigError.message : ConfigError → String
  | zero setting => setting ++ " must be greater than zero"
  | emptyPatternId index => "patterns[" ++ toString index ++ "] has an empty id"

namespace Config

def amounts (config : Config) : List (String × Nat) :=
  let thresholds := config.duplication.thresholds
  [("duplication.min_unit_lines", thresholds.unitLines),
    ("duplication.min_block_tokens", thresholds.blockTokens),
    ("duplication.min_block_statements", thresholds.blockStatements),
    ("rules.long_routine.max_lines", config.limits.lines),
    ("rules.too_many_parameters.max_parameters", config.limits.parameters)]

/-- The first fault of a configuration: a zero, or else a pattern with a blank identifier. -/
def fault? (config : Config) : Option ConfigError :=
  match config.amounts.find? fun (_, amount) => amount == 0 with
  | some (setting, _) => some (.zero setting)
  | none =>
      (config.patterns.findIdx? fun pattern => Text.isBlankText pattern.id).map .emptyPatternId

def isRuleEnabled (config : Config) (id : String) : Bool :=
  !config.disabledRules.contains id

/-- The thresholds of the duplication pass, unless it is switched off or disabled as a rule. -/
def thresholds? (config : Config) : Option Thresholds :=
  if config.duplication.isEnabled && config.isRuleEnabled DuplicateGroup.ruleId then
    some config.duplication.thresholds
  else
    none

def builtinRules (config : Config) : List Rule :=
  [LongRoutine.rule config.limits.lines, TooManyParameters.rule config.limits.parameters]

/-- The registry of the enabled rules: those that need no definition, then the patterns. -/
def registry (config : Config) : Except RegistrationError Registry := do
  let registry ← (config.builtinRules.filter fun rule => config.isRuleEnabled rule.id).foldlM
    Registry.register .empty
  (config.patterns.filter fun pattern => config.isRuleEnabled pattern.id).foldlM
    Registry.registerPattern registry

end Config
end CodeAudit
