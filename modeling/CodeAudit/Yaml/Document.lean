import CodeAudit.Yaml.Node

/-!
YAML documents with resolved aliases. Each anchor gets a number, and an alias stands for the node
that bears the number of its anchor.
-/

namespace CodeAudit
namespace Yaml

namespace Node

structure Numbering where
  numbers : List (String × Nat)

namespace Numbering

def start : Numbering := ⟨[]⟩

def size (numbering : Numbering) : Nat :=
  (numbering.numbers.map Prod.fst).eraseDups.length

/-- An anchor gets the number of different names before it, so a name that is used again shares its
number with the next new name. -/
def anchor (numbering : Numbering) (name : String) : Nat × Numbering :=
  let number := numbering.size
  (number, ⟨(name, number) :: numbering.numbers⟩)

def anchor? (numbering : Numbering) : Option String → Option Nat × Numbering
  | some name => let (number, numbering) := numbering.anchor name; (some number, numbering)
  | none => (none, numbering)

end Numbering

mutual

/-- Replaces names by numbers in the order of the text; an alias needs an anchor before it. -/
def number (numbering : Numbering) : Node String → Except YamlError (Node Nat × Numbering)
  | .alias name =>
      match numbering.numbers.lookup name with
      | some number => .ok (.alias number, numbering)
      | none => .error .unknownAnchor
  | .scalar anchor tag style text =>
      let (anchor, numbering) := numbering.anchor? anchor
      .ok (.scalar anchor tag style text, numbering)
  | .sequence anchor items => do
      let (anchor, numbering) := numbering.anchor? anchor
      let (items, numbering) ← numberItems numbering items
      return (.sequence anchor items, numbering)
  | .mapping anchor entries => do
      let (anchor, numbering) := numbering.anchor? anchor
      let (entries, numbering) ← numberEntries numbering entries
      return (.mapping anchor entries, numbering)

def numberItems (numbering : Numbering) :
    List (Node String) → Except YamlError (List (Node Nat) × Numbering)
  | [] => .ok ([], numbering)
  | item :: items => do
      let (item, numbering) ← number numbering item
      let (items, numbering) ← numberItems numbering items
      return (item :: items, numbering)

def numberEntries (numbering : Numbering) :
    List (Node String × Node String) → Except YamlError (List (Node Nat × Node Nat) × Numbering)
  | [] => .ok ([], numbering)
  | (key, value) :: entries => do
      let (key, numbering) ← number numbering key
      let (value, numbering) ← number numbering value
      let (entries, numbering) ← numberEntries numbering entries
      return ((key, value) :: entries, numbering)

end

mutual

def anchored : Node Nat → List (Nat × Node Nat)
  | .alias _ => []
  | .scalar anchor tag style text =>
      anchor.toList.map fun number => (number, .scalar anchor tag style text)
  | .sequence anchor items =>
      (anchor.toList.map fun number => (number, .sequence anchor items)) ++ anchoredItems items
  | .mapping anchor entries =>
      (anchor.toList.map fun number => (number, .mapping anchor entries)) ++
        anchoredEntries entries

def anchoredItems : List (Node Nat) → List (Nat × Node Nat)
  | [] => []
  | item :: items => anchored item ++ anchoredItems items

def anchoredEntries : List (Node Nat × Node Nat) → List (Nat × Node Nat)
  | [] => []
  | (key, value) :: entries => anchored key ++ anchored value ++ anchoredEntries entries

end

end Node

/-- The node of a document, if it has one, and the nodes that aliases stand for, the last anchor
first. -/
structure Document where
  root : Option (Node Nat)
  targets : List (Nat × Node Nat)

namespace Document

def empty : Document := ⟨none, []⟩

def ofNode (node : Node String) : Except YamlError Document := do
  let (root, _) ← node.number .start
  return ⟨some root, root.anchored.reverse⟩

/-- Reads the directives before a document: at most one version, and no handle twice. -/
def directives (hasVersion : Bool) (handles : Node.Handles) :
    List Token → Except YamlError (Node.Handles × List Token)
  | .versionDirective major minor :: rest =>
      if hasVersion || major != 1 || (minor != 1 && minor != 2) then
        .error .invalidDirective
      else
        directives true handles rest
  | .tagDirective handle target :: rest =>
      if (handles.lookup handle).isSome then
        .error .invalidDirective
      else
        directives hasVersion ((handle, target) :: handles) rest
  | rest => .ok (handles, rest)

def isExplicit : List Token → Bool
  | .versionDirective _ _ :: _ | .tagDirective _ _ :: _ | .documentStart :: _ => true
  | _ => false

def hasContent : List Token → Bool
  | [] | .documentEnd :: _ => false
  | tokens => !isExplicit tokens

def readNode (handles : Node.Handles) (tokens : List Token) :
    Except YamlError (Node String × List Token) :=
  Node.read handles .block tokens (4 * (tokens.length + 1))

def readFirst (tokens : List Token) : Except YamlError (Node String × List Token) :=
  if isExplicit tokens then do
    let (handles, rest) ← directives false [] tokens
    match rest with
    | .documentStart :: rest =>
        if hasContent rest then
          readNode (handles ++ Node.defaultHandles) rest
        else
          .ok (Node.absent, rest)
    | _ => .error .missingDocumentStart
  else
    readNode Node.defaultHandles tokens

def ofTokens (tokens : List Token) : Except YamlError Document :=
  if tokens.isEmpty then
    .ok empty
  else do
    let (node, rest) ← readFirst tokens
    let document ← ofNode node
    match rest.dropWhile (· == .documentEnd) with
    | [] => .ok document
    | _ => .error .severalDocuments

def ofText (text : String) : Except YamlError Document :=
  (Token.scan text).bind ofTokens

def resolve (document : Document) : Node Nat → Node Nat
  | .alias number => (document.targets.lookup number).getD Node.absent
  | node => node

end Document
end Yaml
end CodeAudit
