import CodeAudit.Engine.Analysis

/-!
Engines: a registry whose rules are run over units, lazily, unit by unit, or all at once.
-/

namespace CodeAudit

structure Engine where
  registry : Registry

namespace Engine

def analyze (engine : Engine) (units : List SourceUnit) : Analysis Rule :=
  Analysis.start engine.registry.rules units

def analyzeUnit (engine : Engine) (unit : SourceUnit) : Outcome :=
  Outcome.concat (engine.registry.rules.map fun rule => Outcome.ofCall (rule.call unit))

/-- Each unit on its own, the outcomes joined in the order of the units. -/
def analyzeAll (engine : Engine) (units : List SourceUnit) : Outcome :=
  Outcome.concat (units.map engine.analyzeUnit)

def describe (engine : Engine) : String :=
  "Engine \x7b registry: " ++ engine.registry.describe ++ " \x7d"

end Engine
end CodeAudit
