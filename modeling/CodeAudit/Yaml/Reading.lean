import CodeAudit.Yaml.Document

/-!
Typed values of YAML nodes. Booleans and numbers are plain scalars, a text is any scalar, and a key
with nothing behind it is an empty list or section.
-/

namespace CodeAudit
namespace Yaml
namespace Document

def coreTag (name : String) : String :=
  "tag:yaml.org,2002:" ++ name

/-- Whether a scalar may stand for more than its text: if it is plain, or a literal block under the
tag of the type. -/
def isTyped (type : String) (tag : Option String) : ScalarStyle → Bool
  | .plain => true
  | .literal => tag == some (coreTag type)
  | _ => false

def bool? : String → Option Bool
  | "true" | "True" | "TRUE" => some true
  | "false" | "False" | "FALSE" => some false
  | _ => none

def digitValue? (base : Nat) (digit : Char) : Option Nat :=
  (Quoted.hexValue? digit).filter (· < base)

def digitsValue? (base : Nat) (digits : List Char) : Option Nat :=
  if digits.isEmpty then
    none
  else
    (digits.foldl (fun value digit => do return base * (← value) + (← digitValue? base digit))
      (some 0)).filter (· < 0x10000000000000000)

/-- A number in base 16, 8 or 2 after its mark, or in base 10 without needless zeros. A plus sign
may stand before it. -/
def natural? (text : List Char) : Option Nat :=
  let digits := if text.head? == some '+' then text.drop 1 else text
  match digits with
  | '0' :: 'x' :: rest => digitsValue? 16 rest
  | '0' :: 'o' :: rest => digitsValue? 8 rest
  | '0' :: 'b' :: rest => digitsValue? 2 rest
  | '0' :: _ :: _ => none
  | _ => digitsValue? 10 digits

def isNull (text : String) : Bool :=
  text == "null" || text == "Null" || text == "NULL" || text == "~"

/-- Whether an optional value is missing: nothing is written, or a null without another tag. -/
def isMissing (tag : Option String) (style : ScalarStyle) (text : String) : Except YamlError Bool :=
  if style != .plain then
    .ok false
  else
    match tag with
    | none => .ok (text.isEmpty || isNull text)
    | some name =>
        if name != coreTag "null" then .ok false
        else if isNull text then .ok true
        else .error (.invalidType "null")

def readText (document : Document) (node : Node Nat) : Except YamlError String :=
  match document.resolve node with
  | .scalar _ _ _ text => .ok text
  | _ => .error (.invalidType "a string")

def readOptionalText (document : Document) (node : Node Nat) : Except YamlError (Option String) :=
  match document.resolve node with
  | .scalar _ tag style text => do return if ← isMissing tag style text then none else some text
  | _ => .error (.invalidType "a string")

def readBool (document : Document) (node : Node Nat) : Except YamlError Bool :=
  match document.resolve node with
  | .scalar _ tag style text =>
      match (bool? text).filter fun _ => isTyped "bool" tag style with
      | some value => .ok value
      | none => .error (.invalidType "a boolean")
  | _ => .error (.invalidType "a boolean")

def readNatural (document : Document) (node : Node Nat) : Except YamlError Nat :=
  match document.resolve node with
  | .scalar _ tag style text =>
      match (natural? text.toList).filter fun _ => isTyped "int" tag style with
      | some value => .ok value
      | none => .error (.invalidType "an unsigned integer")
  | _ => .error (.invalidType "an unsigned integer")

def readItems (document : Document) (node : Node Nat) : Except YamlError (List (Node Nat)) :=
  match document.resolve node with
  | .sequence _ items => .ok items
  | .scalar _ _ .plain "" => .ok []
  | _ => .error (.invalidType "a sequence")

def readList {Item : Type} (document : Document)
    (read : Document → Node Nat → Except YamlError Item) (node : Node Nat) :
    Except YamlError (List Item) := do
  (← document.readItems node).mapM (read document)

def readFields (document : Document) (known : List String) (node : Node Nat) :
    Except YamlError (List (String × Node Nat)) := do
  let entries ←
    match document.resolve node with
    | .mapping _ entries => .ok entries
    | .scalar _ _ .plain "" => .ok []
    | _ => .error (.invalidType "a mapping")
  let fields ← entries.mapM fun (key, value) => do return (← document.readText key, value)
  match known.find? fun name => 1 < (fields.map Prod.fst).count name with
  | some name => .error (.duplicateField name)
  | none => .ok fields

def readField {Value : Type} (document : Document) (fields : List (String × Node Nat))
    (name : String) (default : Value)
    (read : Document → Node Nat → Except YamlError Value) : Except YamlError Value :=
  match fields.lookup name with
  | some node => read document node
  | none => .ok default

def readRequired {Value : Type} (document : Document) (fields : List (String × Node Nat))
    (name : String) (read : Document → Node Nat → Except YamlError Value) :
    Except YamlError Value :=
  match fields.lookup name with
  | some node => read document node
  | none => .error (.missingField name)

end Document
end Yaml
end CodeAudit
