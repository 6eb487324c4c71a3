import CodeAudit.Rule.Registry

/-!
Calls of a rule on a unit. Whatever goes wrong in a call becomes a fault, which names that rule and
that unit. A thread notes the place of the last panic raised on it until a call that unwinds takes
the note.
-/

namespace CodeAudit

structure Outcome where
  findings : List Finding
  faults : List Fault
deriving DecidableEq

namespace Outcome

def empty : Outcome := ⟨[], []⟩

def append (first second : Outcome) : Outcome :=
  ⟨first.findings ++ second.findings, first.faults ++ second.faults⟩

def ofCall : Except Fault (List Finding) → Outcome
  | .ok findings => ⟨findings, []⟩
  | .error fault => ⟨[], [fault]⟩

def concat (outcomes : List Outcome) : Outcome :=
  outcomes.foldr append empty

end Outcome

namespace Rule

def fault (rule : Rule) (unit : SourceUnit) (kind : FaultKind) (message : String) : Fault :=
  ⟨rule.info.id, unit.path, kind, message⟩

def foreignMessage (info : RuleInfo) (foreign : Finding) : String :=
  "finding attributed to " ++ foreign.ruleId ++ " (" ++ foreign.severity.name ++ "/" ++
    foreign.category ++ ") does not match rule metadata (" ++ info.severity.name ++ "/" ++
    info.category ++ ")"

/-- Runs the rule where the place of a panic may be noted. A finding that the rule does not own
makes the whole call a fault. -/
def callNoted (rule : Rule) (unit : SourceUnit) (noted : Option String) :
    Except Fault (List Finding) × Option String :=
  match rule.run unit with
  | .error (.error message) => (.error (rule.fault unit .error message), noted)
  | .error (.panic payload place) =>
      (.error (rule.fault unit .panic (payload.report (place.or noted))), none)
  | .ok findings =>
      match findings.find? fun finding => !rule.info.owns finding with
      | some foreign =>
          (.error (rule.fault unit .contract (foreignMessage rule.info foreign)), noted)
      | none => (.ok findings, noted)

def call (rule : Rule) (unit : SourceUnit) : Except Fault (List Finding) :=
  (rule.callNoted unit none).1

end Rule

/-- A rule with the places of the panics that it raises on a unit and catches itself. -/
structure CatchingRule extends Rule where
  caught : SourceUnit → List String

/-- What can be run on units, where a thread keeps something of each call for the next. -/
class Callable (Member : Type) where
  Kept : Type
  nothing : Kept
  call : Member → SourceUnit → Kept → Except Fault (List Finding) × Kept

/-- A rule that catches no panic leaves none noted. -/
instance : Callable Rule where
  Kept := Unit
  nothing := ()
  call rule unit _ := (rule.call unit, ())

instance : Callable CatchingRule where
  Kept := Option String
  nothing := none
  call rule unit noted := rule.callNoted unit ((rule.caught unit).getLast?.or noted)

end CodeAudit
