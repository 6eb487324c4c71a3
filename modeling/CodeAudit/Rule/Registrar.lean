import CodeAudit.Rule.Pattern
import Std.Data.HashSet

/-!
Registration in place. A registrar holds the rules it accepted, in order, and beside them the set
of their identifiers, by which it knows an identifier that is taken.
-/

namespace CodeAudit

structure Registrar where
  rules : List Rule
  /-- The identifiers of the rules. -/
  taken : Std.HashSet String

namespace Registrar

def empty : Registrar := ⟨[], ∅⟩

def registry (registrar : Registrar) : Registry :=
  ⟨registrar.rules⟩

/-- A change that may be refused. What was changed before the refusal stays changed. -/
abbrev Change := ExceptT RegistrationError (StateM Registrar) Unit

def register (rule : Rule) : Change := do
  if Text.isBlankText rule.info.id then
    throw .emptyId
  if Text.isBlankText rule.info.category then
    throw (.emptyCategory rule.info.id)
  let registrar ← get
  if registrar.taken.contains rule.info.id then
    throw (.duplicateId rule.info.id)
  set (Registrar.mk (registrar.rules ++ [rule]) (registrar.taken.insert rule.info.id))

def registerPattern (definition : PatternDefinition) : Change := do
  let rule ← liftM (Pattern.rule definition)
  register rule

inductive Attempt where
  | rule (asked : Rule)
  | pattern (definition : PatternDefinition)

def Attempt.change : Attempt → Change
  | .rule asked => register asked
  | .pattern definition => registerPattern definition

def attempt (registrar : Registrar) (attempt : Attempt) :
    Except RegistrationError Unit × Registrar :=
  attempt.change.run.run registrar

/-- The results of attempts one after another; one that is refused does not end the run. -/
def attemptAll (registrar : Registrar) :
    List Attempt → List (Except RegistrationError Unit) × Registrar
  | [] => ([], registrar)
  | first :: rest =>
      let (result, next) := registrar.attempt first
      let (results, last) := next.attemptAll rest
      (result :: results, last)

end Registrar
end CodeAudit
