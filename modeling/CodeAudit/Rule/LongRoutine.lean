import CodeAudit.Rule.Basic
import CodeAudit.Source.Routine

/-!
The rule against routines that span too many lines.
-/

namespace CodeAudit
namespace LongRoutine

def defaultMaximum : Nat := 60

def info : RuleInfo :=
  ⟨"long-routine", "Routine body is longer than the configured maximum", .warning, "Size"⟩

def finding? (maximum : Nat) (unit : SourceUnit) (routine : Routine) : Option Finding :=
  let lines := routine.span.lineCount
  if maximum < lines then
    let message := "routine '" ++ routine.label ++ "' has " ++ toString lines ++
      " lines, exceeds maximum of " ++ toString maximum
    some ((info.finding unit.path routine.span.startLine message).withProperty "lines"
      (toString lines))
  else
    none

def rule (maximum : Nat) : Rule :=
  ⟨info, fun unit => .ok (unit.routines.filterMap (finding? maximum unit))⟩

end LongRoutine
end CodeAudit
