import CodeAudit.Regex.Reader
import CodeAudit.Rule.Basic

/-!
Registries: the rules of a run in the order in which they were accepted, no two under one
identifier.
-/

namespace CodeAudit

inductive RegistrationError where
  | emptyId
  | emptyCategory (id : String)
  | invalidSeverity (id severity : String)
  | duplicateId (id : String)
  | invalidPattern (id : String) (reason : RegexError)
deriving DecidableEq, Repr

def RegistrationError.message : RegistrationError → String
  | emptyId => "rule id must not be empty"
  | emptyCategory id => "rule `" ++ id ++ "` has an empty category"
  | invalidSeverity id severity =>
      "rule `" ++ id ++ "` declares unknown severity `" ++ severity ++
        "` (expected error, warning or info)"
  | duplicateId id => "rule `" ++ id ++ "` is already registered"
  | invalidPattern id reason =>
      "rule `" ++ id ++ "` has an invalid pattern: " ++ reason.message

structure Registry where
  rules : List Rule

namespace Registry

def empty : Registry := ⟨[]⟩

def ids (registry : Registry) : List String :=
  registry.rules.map Rule.id

/-- Adds a rule with an identifier and a category, unless the identifier is taken. -/
def register (registry : Registry) (rule : Rule) : Except RegistrationError Registry :=
  if Text.isBlankText rule.info.id then
    .error .emptyId
  else if Text.isBlankText rule.info.category then
    .error (.emptyCategory rule.info.id)
  else if registry.ids.contains rule.info.id then
    .error (.duplicateId rule.info.id)
  else
    .ok ⟨registry.rules ++ [rule]⟩

def get? (registry : Registry) (id : String) : Option Rule :=
  registry.rules.find? fun rule => rule.id == id

def size (registry : Registry) : Nat :=
  registry.rules.length

def describe (registry : Registry) : String :=
  "RuleRegistry \x7b rules: [" ++ ", ".intercalate (registry.ids.map Text.quoted) ++ "] \x7d"

end Registry
end CodeAudit
