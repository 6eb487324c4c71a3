/-!
Syntax trees. A tree is given as its nodes in pre-order, each with the number of its children;
nodes refer to one another by their place in that order.
-/

namespace CodeAudit

inductive Field where
  | name
  | declarator
  | body
  | parameters
  | parameter
deriving DecidableEq, Repr

structure Node where
  kind : String
  named : Bool
  missing : Bool
  startByte : Nat
  endByte : Nat
  startRow : Nat
  endRow : Nat
  fields : List (Field × Nat)
deriving DecidableEq, Repr

inductive Tree where
  | node (node : Node) (children : List Tree)

namespace Tree

def root : Tree → Node
  | node given _ => given

def children : Tree → List Tree
  | node _ given => given

def bare : Tree :=
  node ⟨"source", true, false, 0, 0, 0, 0, []⟩ []

mutual

def size : Tree → Nat
  | node _ given => 1 + forestSize given

def forestSize : List Tree → Nat
  | [] => 0
  | tree :: rest => size tree + forestSize rest

end

mutual

def subtrees : Tree → List Tree
  | node given members => node given members :: forestSubtrees members

def forestSubtrees : List Tree → List Tree
  | [] => []
  | tree :: rest => subtrees tree ++ forestSubtrees rest

end

def preorder (tree : Tree) : List (Node × Nat) :=
  tree.subtrees.map fun part => (part.root, part.children.length)

/-- Puts a node before the trees that follow it, the first `count` of which are its children. -/
def gather (given : Node × Nat) (later : Option (List Tree)) : Option (List Tree) :=
  later.bind fun trees =>
    if given.2 ≤ trees.length then
      some (node given.1 (trees.take given.2) :: trees.drop given.2)
    else
      none

def ofPreorder? (nodes : List (Node × Nat)) : Option Tree :=
  match nodes.foldr gather (some []) with
  | some [tree] => some tree
  | _ => none

def namedChildren (tree : Tree) : List Tree :=
  tree.children.filter fun child => child.root.named

def hasErrors (tree : Tree) : Bool :=
  tree.subtrees.any fun part => part.root.kind == "ERROR" || part.root.missing

theorem forest_size_append (left right : List Tree) :
    forestSize (left ++ right) = forestSize left + forestSize right := by
  induction left with
  | nil => simp [forestSize]
  | cons tree rest ih => simp [forestSize, ih, Nat.add_assoc]

end Tree
end CodeAudit
