/-!
Severities of findings.
-/

namespace CodeAudit

inductive Severity where
  | error
  | warning
  | info
deriving DecidableEq, Repr

namespace Severity

def name : Severity → String
  | error => "error"
  | warning => "warning"
  | info => "info"

def title : Severity → String
  | error => "Error"
  | warning => "Warning"
  | info => "Info"

/-- Reads a name in any mixture of cases. Only ASCII letters have a variant among the letters of
the three names. -/
def ofName? (name : String) : Option Severity :=
  match String.ofList (name.toList.map Char.toLower) with
  | "error" => some error
  | "warning" => some warning
  | "info" => some info
  | _ => none

def unknownMessage (name : String) : String :=
  "unknown severity: " ++ name

theorem of_name?_name (severity : Severity) : ofName? severity.name = some severity := by
  cases severity <;> decide +kernel

end Severity
end CodeAudit
