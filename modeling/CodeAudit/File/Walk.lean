import CodeAudit.File.System
import CodeAudit.Glob.Matching
import CodeAudit.Source.Unit

/-!
The source units below a path. A walk goes through directories in the order of their names, leaves
out hidden ones and those that hold the work of others, and names each file by the way to it.
-/

namespace CodeAudit
namespace FileTree

def foreignDirectories : List String :=
  ["node_modules", "target", "vendor", "__pycache__"]

def isSkipped (name : FileName) (tree : FileTree) : Bool :=
  tree.isDirectory && (name.shown.startsWith "." || foreignDirectories.contains name.shown)

def underName (name : FileName) (files : List (List FileName × StoredFile)) :
    List (List FileName × StoredFile) :=
  files.map fun (names, stored) => (name :: names, stored)

mutual

/-- The files of a tree, each with the names that lead to it. -/
def walk : FileTree → List (List FileName × StoredFile)
  | .file stored => [([], stored)]
  | .directory children =>
      ((walkChildren children).mergeSort fun left right => left.1 ≤ right.1).flatMap
        fun (name, files) => underName name files

def walkChildren : List (FileName × FileTree) → List (FileName × List (List FileName × StoredFile))
  | [] => []
  | (name, child) :: children =>
      if isSkipped name child then walkChildren children
      else (name, walk child) :: walkChildren children

end

def logicalPath (names : List FileName) : String :=
  Path.ofNames (names.map FileName.shown)

/-- The unit of a file, unless its path is excluded, its language is unknown or it holds no text. -/
def unit? (excludes : Excludes) (path : String) (stored : StoredFile) : Option SourceUnit :=
  if excludes.contains path then
    none
  else do
    let language ← Language.ofPath? path
    let source ← stored.text?
    (SourceUnit.parseAs ⟨path, source, stored.syntaxTree⟩ language).toOption

end FileTree

namespace FileSystem

/-- The files below a path, each under its logical path, or under its name alone if the path is
that of a file. -/
def filesBelow (system : FileSystem) (path : String) : List (String × StoredFile) :=
  match system.find path with
  | .error _ => []
  | .ok (.file stored) => [((Path.fileName? path).getD path, stored)]
  | .ok found => found.walk.map fun (names, stored) => (FileTree.logicalPath names, stored)

def units (system : FileSystem) (path : String) (excludes : Excludes) : List SourceUnit :=
  (system.filesBelow path).filterMap fun (path, stored) => FileTree.unit? excludes path stored

end FileSystem
end CodeAudit
