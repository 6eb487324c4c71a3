import CodeAudit.File.Name
import CodeAudit.Path
import CodeAudit.Source.Tree

/-!
Trees of files and directories.
-/

namespace CodeAudit

structure StoredFile where
  bytes : List UInt8
  syntaxTree : Tree

inductive FileTree where
  | file (stored : StoredFile)
  | directory (children : List (FileName × FileTree))

namespace StoredFile

def ofText (text : String) (syntaxTree : Tree) : StoredFile :=
  ⟨text.toUTF8.data.toList, syntaxTree⟩

def text? (stored : StoredFile) : Option String :=
  String.fromUTF8? ⟨stored.bytes.toArray⟩

end StoredFile

namespace FileTree

def empty : FileTree := .directory []

def isDirectory : FileTree → Bool
  | .file _ => false
  | .directory _ => true

def isFile (tree : FileTree) : Bool :=
  !tree.isDirectory

def child? (tree : FileTree) (name : FileName) : Option FileTree :=
  match tree with
  | .file _ => none
  | .directory children => children.lookup name

def setChild (children : List (FileName × FileTree)) (name : FileName) (child : FileTree) :
    List (FileName × FileTree) :=
  match children with
  | [] => [(name, child)]
  | (other, held) :: rest =>
      if other == name then (name, child) :: rest else (other, held) :: setChild rest name child

/-- Changes what stands at the end of a list of names, with the directories on the way. -/
def update (change : Option FileTree → FileTree) : List FileName → Option FileTree → FileTree
  | [], held => change held
  | name :: names, held =>
      match held.getD empty with
      | .file stored => .file stored
      | .directory children =>
          .directory (setChild children name (update change names (children.lookup name)))

def addDirectory (tree : FileTree) (names : List FileName) : FileTree :=
  update (fun held => held.getD empty) names (some tree)

def add (tree : FileTree) (added : List FileName × FileTree) : FileTree :=
  update (fun _ => added.2) added.1 (some tree)

end FileTree
end CodeAudit
