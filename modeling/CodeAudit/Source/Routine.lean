import CodeAudit.Source.Token

/-!
Routines of a unit: functions, methods and closures, with their names, parameters and the
statements of their bodies.
-/

namespace CodeAudit

structure LineSpan where
  startLine : Nat
  endLine : Nat
deriving DecidableEq, Repr

def Node.lineSpan (node : Node) : LineSpan :=
  ⟨node.startRow + 1, node.endRow + 1⟩

def LineSpan.lineCount (span : LineSpan) : Nat :=
  span.endLine - span.startLine + 1

def LineSpan.text (span : LineSpan) : String :=
  toString span.startLine ++ "-" ++ toString span.endLine

namespace Tree

/-- The node named by a field, found by its place among the nodes of the whole tree. -/
def field? (nodes : Array Tree) (tree : Tree) (field : Field) : Option Tree :=
  (tree.root.fields.lookup field).bind fun index => nodes[index]?

def isIdentifier (kind : String) : Bool :=
  ["identifier", "field_identifier", "qualified_identifier", "destructor_name",
    "operator_name"].contains kind

def isBlock (kind : String) : Bool :=
  occursIn "block".toList kind.toList || "body".toList.isSuffixOf kind.toList ||
    kind == "compound_statement" || kind == "statements"

def isStatementList (kind : String) : Bool :=
  kind == "statement_list" || kind == "statements"

/-- The node that holds a routine's name. Where the routine has no name of its own, the name is
inside its declarator. -/
def nameNode? (nodes : Array Tree) : Nat → Tree → Option Tree
  | 0, _ => none
  | fuel + 1, tree =>
      match field? nodes tree .name with
      | some name => some name
      | none =>
          (field? nodes tree .declarator).bind fun declarator =>
            if isIdentifier declarator.root.kind then some declarator
            else nameNode? nodes fuel declarator

/-- The children that count: named ones that are not comments. -/
def members (tree : Tree) : List Tree :=
  tree.namedChildren.filter fun child => !isComment child.root.kind

def parameterCount? (nodes : Array Tree) : Nat → Tree → Option Nat
  | 0, _ => none
  | fuel + 1, tree =>
      match field? nodes tree .parameters with
      | some parameters => some parameters.members.length
      | none =>
          if (field? nodes tree .parameter).isSome then some 1
          else (field? nodes tree .declarator).bind (parameterCount? nodes fuel)

theorem size_le_of_mem {tree : Tree} {forest : List Tree} (member : tree ∈ forest) :
    tree.size ≤ forestSize forest := by
  induction forest with
  | nil => simp at member
  | cons head rest ih =>
      simp only [forestSize]
      rcases List.mem_cons.mp member with same | later
      · subst same
        omega
      · have := ih later
        omega

/-- Goes down through a list of statements that is the only member. -/
def unwrapStatements (tree : Tree) : List Tree :=
  match _ : tree.members with
  | [child] => if isStatementList child.root.kind then unwrapStatements child else [child]
  | several => several
termination_by tree.size
decreasing_by
  have inside : child ∈ tree.children := by
    have : child ∈ tree.members := by simp [‹tree.members = [child]›]
    exact (List.mem_filter.mp (List.mem_filter.mp this).1).1
  have bound := size_le_of_mem inside
  cases tree with
  | node given members =>
      simp only [children, size] at *
      omega

/-- The statements of a body; a body that is no block is a single statement. -/
def statements (body : Tree) : List Tree :=
  if isBlock body.root.kind then body.unwrapStatements else [body]

end Tree

structure Routine where
  node : Node
  name : Option String
  parameterCount : Option Nat
  body : Option Tree

namespace Routine

def span (routine : Routine) : LineSpan :=
  routine.node.lineSpan

def label (routine : Routine) : String :=
  routine.name.getD ("<anonymous@" ++ toString routine.span.startLine ++ ">")

def statements (routine : Routine) : List Tree :=
  (routine.body.map Tree.statements).getD []

end Routine

def firstOfRuns {α κ : Type} [DecidableEq κ] (key : α → κ) : List α → List α
  | [] => []
  | [element] => [element]
  | first :: second :: rest =>
      if key first = key second then firstOfRuns key (first :: rest)
      else first :: firstOfRuns key (second :: rest)
termination_by elements => elements.length

namespace SourceUnit

def byteRange (tree : Tree) : Nat × Nat :=
  (tree.root.startByte, tree.root.endByte)

def rangeLe (left right : Tree) : Bool :=
  left.root.startByte < right.root.startByte ||
    (left.root.startByte == right.root.startByte && left.root.endByte ≤ right.root.endByte)

def isRoutineNode (unit : SourceUnit) (tree : Tree) : Bool :=
  tree.root.named && unit.language.isRoutine tree.root.kind

/-- The routine nodes in order of position, one for each range of bytes. -/
def routineNodes (unit : SourceUnit) : List Tree :=
  firstOfRuns byteRange ((unit.tree.subtrees.filter unit.isRoutineNode).mergeSort rangeLe)

def routineOf (unit : SourceUnit) (nodes : Array Tree) (tree : Tree) : Routine where
  node := tree.root
  name := (tree.nameNode? nodes nodes.size).map fun name => unit.nodeText name.root
  parameterCount := tree.parameterCount? nodes nodes.size
  body := tree.field? nodes .body

def routines (unit : SourceUnit) : List Routine :=
  unit.routineNodes.map (unit.routineOf unit.tree.subtrees.toArray)

end SourceUnit
end CodeAudit
