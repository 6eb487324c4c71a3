import CodeAudit.Rule.Basic
import CodeAudit.Source.Routine

/-!
The rule against routines that declare too many parameters.
-/

namespace CodeAudit
namespace TooManyParameters

def defaultMaximum : Nat := 5

def info : RuleInfo :=
  ⟨"too-many-parameters", "Routine declares more parameters than the configured maximum", .warning,
    "Design"⟩

def finding? (maximum : Nat) (unit : SourceUnit) (routine : Routine) : Option Finding :=
  routine.parameterCount.bind fun count =>
    if maximum < count then
      let message := "routine '" ++ routine.label ++ "' has " ++ toString count ++
        " parameters, exceeds maximum of " ++ toString maximum
      some (info.finding unit.path routine.span.startLine message)
    else
      none

def rule (maximum : Nat) : Rule :=
  ⟨info, fun unit => .ok (unit.routines.filterMap (finding? maximum unit))⟩

end TooManyParameters
end CodeAudit
