import CodeAudit.Config.Basic
import CodeAudit.Yaml.Reading

/-!
Configurations written as YAML documents. Every section and every setting may be missing, except
the identifier and the expression of a pattern.
-/

namespace CodeAudit

inductive ConfigTextError where
  | document (reason : Yaml.YamlError)
  | setting (reason : ConfigError)
deriving DecidableEq, Repr

def ConfigTextError.message : ConfigTextError → String
  | document reason => reason.message
  | setting reason => reason.message

namespace Config

open Yaml (Document YamlError)

def readThresholds (document : Document) (fields : List (String × Yaml.Node Nat)) :
    Except YamlError Thresholds := do
  let defaults : Thresholds := {}
  let unitLines ←
    document.readField fields "min_unit_lines" defaults.unitLines Document.readNatural
  let blockTokens ←
    document.readField fields "min_block_tokens" defaults.blockTokens Document.readNatural
  let blockStatements ←
    document.readField fields "min_block_statements" defaults.blockStatements Document.readNatural
  return { unitLines, blockTokens, blockStatements }

def readDuplication (document : Document) (node : Yaml.Node Nat) :
    Except YamlError DuplicationSettings := do
  let fields ← document.readFields
    ["enabled", "min_unit_lines", "min_block_tokens", "min_block_statements"] node
  let isEnabled ← document.readField fields "enabled" true Document.readBool
  let thresholds ← readThresholds document fields
  return { isEnabled, thresholds }

def readLimit (name : String) (default : Nat) (document : Document) (node : Yaml.Node Nat) :
    Except YamlError Nat := do
  let fields ← document.readFields [name] node
  document.readField fields name default Document.readNatural

def readLimits (document : Document) (node : Yaml.Node Nat) : Except YamlError RuleLimits := do
  let defaults : RuleLimits := {}
  let fields ← document.readFields ["long_routine", "too_many_parameters"] node
  let lines ← document.readField fields "long_routine" defaults.lines
    (readLimit "max_lines" defaults.lines)
  let parameters ← document.readField fields "too_many_parameters" defaults.parameters
    (readLimit "max_parameters" defaults.parameters)
  return { lines, parameters }

def readPattern (document : Document) (node : Yaml.Node Nat) :
    Except YamlError PatternDefinition := do
  let fields ← document.readFields
    ["id", "description", "severity", "category", "pattern"] node
  let id ← document.readRequired fields "id" Document.readText
  let description ← document.readField fields "description" none Document.readOptionalText
  let severity ← document.readField fields "severity" PatternDefinition.defaultSeverity
    Document.readText
  let category ← document.readField fields "category" PatternDefinition.defaultCategory
    Document.readText
  let pattern ← document.readRequired fields "pattern" Document.readText
  return { id, description, severity, category, pattern }

def readConfig (document : Document) (node : Yaml.Node Nat) : Except YamlError Config := do
  let fields ← document.readFields
    ["version", "exclude", "parallel", "disabled_rules", "duplication", "rules", "patterns"] node
  let texts := fun (document : Document) => document.readList Document.readText
  let version ← document.readField fields "version" none Document.readOptionalText
  let exclude ← document.readField fields "exclude" [] texts
  let isParallel ← document.readField fields "parallel" false Document.readBool
  let disabledRules ← document.readField fields "disabled_rules" [] texts
  let duplication ← document.readField fields "duplication" {} readDuplication
  let limits ← document.readField fields "rules" {} readLimits
  let patterns ← document.readField fields "patterns" [] fun document =>
    document.readList readPattern
  return { version, exclude, isParallel, disabledRules, duplication, limits, patterns }

/-- The configuration of a document; an empty document leaves every default in place. -/
def ofDocument (document : Document) : Except YamlError Config :=
  match document.root with
  | some node => readConfig document node
  | none => .ok {}

/-- The valid configuration that a text writes down; a blank text writes the default one. -/
def ofText (text : String) : Except ConfigTextError Config :=
  if Text.isBlankText text then
    .ok {}
  else
    match (Document.ofText text).bind ofDocument with
    | .error reason => .error (.document reason)
    | .ok config =>
        match config.fault? with
        | some reason => .error (.setting reason)
        | none => .ok config

end Config
end CodeAudit
