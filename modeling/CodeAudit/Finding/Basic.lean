import CodeAudit.Finding.Properties
import CodeAudit.Finding.Severity

/-!
Findings, the rules' identities that they carry, and the faults recorded when a rule fails.
-/

namespace CodeAudit

structure Finding where
  sourcePath : String
  ruleId : String
  message : String
  line : Nat
  severity : Severity
  category : String
  properties : Properties
deriving DecidableEq

namespace Finding

/-- Lines are counted from one, so line zero is taken for the first. -/
def make (sourcePath ruleId message : String) (line : Nat) (severity : Severity)
    (category : String) : Finding :=
  ⟨sourcePath, ruleId, message, max line 1, severity, category, Properties.empty⟩

def withProperty (finding : Finding) (key value : String) : Finding :=
  { finding with properties := finding.properties.insert key value }

end Finding

structure RuleInfo where
  id : String
  description : String
  severity : Severity
  category : String
deriving DecidableEq

namespace RuleInfo

def finding (info : RuleInfo) (sourcePath : String) (line : Nat) (message : String) : Finding :=
  Finding.make sourcePath info.id message line info.severity info.category

def owns (info : RuleInfo) (finding : Finding) : Bool :=
  finding.ruleId == info.id && finding.severity == info.severity &&
    finding.category == info.category

end RuleInfo

inductive FaultKind where
  | error
  | panic
  | contract
deriving DecidableEq, Repr

def FaultKind.name : FaultKind → String
  | error => "error"
  | panic => "panic"
  | contract => "contract"

structure Fault where
  ruleId : String
  sourcePath : String
  kind : FaultKind
  message : String
deriving DecidableEq

def Fault.describe (fault : Fault) : String :=
  "rule " ++ fault.ruleId ++ " failed on " ++ fault.sourcePath ++ " (" ++ fault.kind.name ++
    "): " ++ fault.message

end CodeAudit
