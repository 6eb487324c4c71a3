import CodeAudit.Finding.Basic
import CodeAudit.Source.Unit

/-!
Rules: an identity together with a function from units to findings. A rule may also fail, either
by reporting an error or by breaking off.
-/

namespace CodeAudit

inductive Payload where
  | text (message : String)
  | other
deriving DecidableEq, Repr

/-- How a rule fails. A panic is noted at the place where it is raised, and one that is only
resumed is not. -/
inductive Failure where
  | error (message : String)
  | panic (payload : Payload) (place : Option String)
deriving DecidableEq, Repr

namespace Payload

def message : Payload → String
  | text message => message
  | other => "rule panicked"

def report (payload : Payload) : Option String → String
  | some place => payload.message ++ " (at " ++ place ++ ")"
  | none => payload.message

end Payload

structure Rule where
  info : RuleInfo
  run : SourceUnit → Except Failure (List Finding)

def Rule.id (rule : Rule) : String :=
  rule.info.id

end CodeAudit
