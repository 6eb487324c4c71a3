import CodeAudit.Regex.Program
import CodeAudit.Rule.Literal
import CodeAudit.Rule.Registry

/-!
Pattern rules: a regular expression that no line may match outside its string literals.
-/

namespace CodeAudit

structure PatternDefinition where
  id : String
  description : Option String
  severity : String
  category : String
  pattern : String
deriving DecidableEq, Repr

namespace PatternDefinition

def defaultSeverity : String := "warning"
def defaultCategory : String := "Pattern"

def describe (definition : PatternDefinition) : String :=
  definition.description.getD ("Forbidden pattern " ++ Text.quoted definition.pattern)

end PatternDefinition

namespace Pattern

def slice (line : List Char) (start stop : Nat) : List Char :=
  match line with
  | [] => []
  | character :: rest =>
      if start == 0 && stop == 0 then []
      else if start == 0 then character :: slice rest 0 (stop - character.utf8Size)
      else slice rest (start - character.utf8Size) (stop - character.utf8Size)

/-- The matches in a line that start outside every string literal. -/
def matchesIn (program : Regex.Program) (line : List Char) : List (Nat × Nat) :=
  (program.findAll line).filter fun found => !Literal.isInside line found.1

def finding (info : RuleInfo) (path : String) (lineNumber : Nat) (line : List Char)
    (found : Nat × Nat) : Finding :=
  let text := String.ofList (slice line found.1 found.2)
  (info.finding path lineNumber
    ("pattern " ++ Text.quoted text ++ " found: " ++ info.description)).withProperty "column"
      (toString (found.1 + 1))

def lineFindings (info : RuleInfo) (program : Regex.Program) (path : String) (line : List Char)
    (index : Nat) : List Finding :=
  (matchesIn program line).map (finding info path (index + 1) line)

def findings (info : RuleInfo) (program : Regex.Program) (unit : SourceUnit) : List Finding :=
  ((Text.lines unit.source.toList).zipIdx.map fun (line, index) =>
    lineFindings info program unit.path line index).flatten

/-- The rule of a definition, whose severity is checked before its pattern. -/
def rule (definition : PatternDefinition) : Except RegistrationError Rule :=
  match Severity.ofName? definition.severity with
  | none => .error (.invalidSeverity definition.id definition.severity)
  | some severity =>
      match Regex.ofText definition.pattern with
      | .error reason => .error (.invalidPattern definition.id reason)
      | .ok regex =>
          let info : RuleInfo :=
            ⟨definition.id, definition.describe, severity, definition.category⟩
          .ok ⟨info, fun unit => .ok (findings info regex.program unit)⟩

end Pattern

def Registry.registerPattern (registry : Registry) (definition : PatternDefinition) :
    Except RegistrationError Registry :=
  (Pattern.rule definition).bind registry.register

end CodeAudit
