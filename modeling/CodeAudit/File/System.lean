import CodeAudit.File.Tree

/-!
Files and directories below one root, and how a path leads through them from the root or from the
working directory.
-/

namespace CodeAudit

inductive FileError where
  | missing
  | notDirectory
  | isDirectory
  | notText
deriving DecidableEq, Repr

def FileError.message : FileError → String
  | missing => "No such file or directory (os error 2)"
  | notDirectory => "Not a directory (os error 20)"
  | isDirectory => "Is a directory (os error 21)"
  | notText => "stream did not contain valid UTF-8"

structure FileSystem where
  root : FileTree
  /-- The names that lead from the root to the working directory. -/
  working : List FileName

namespace FileSystem

/-- Follows names from a place, given with the directories above it. The root is its own parent. -/
def follow (above : List FileTree) (place : FileTree) :
    List FileName → Except FileError FileTree
  | [] => .ok place
  | name :: names =>
      if place.isFile then
        .error .notDirectory
      else if name == [] || name == FileName.current then
        follow above place names
      else if name == FileName.parent then
        match above with
        | [] => follow [] place names
        | parent :: above => follow above parent names
      else
        match place.child? name with
        | none => .error .missing
        | some child => follow (place :: above) child names

def find (system : FileSystem) (path : String) : Except FileError FileTree :=
  let names := (Path.pieces path).map FileName.ofText
  if path == "" then
    .error .missing
  else if Path.isAbsolute path then
    follow [] system.root names
  else
    follow [] system.root (system.working ++ names)

def isFileAt (system : FileSystem) (path : String) : Bool :=
  match system.find path with
  | .ok found => found.isFile
  | .error _ => false

def readText (system : FileSystem) (path : String) : Except FileError String :=
  match system.find path with
  | .error reason => .error reason
  | .ok (.directory _) => .error .isDirectory
  | .ok (.file stored) =>
      match stored.text? with
      | some text => .ok text
      | none => .error .notText

end FileSystem
end CodeAudit
