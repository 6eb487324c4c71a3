import CodeAudit.Command.Run

/-!
The program. It reads the files that a command can come across and runs the command on them.
Grammars are not part of it: a file that is read here has a tree of a single node, so no routines.
-/

namespace CodeAudit

/-- Reads a file or a directory with all that is in it; what cannot be read is left out. -/
partial def readEntry (entry : IO.FS.DirEntry) : IO (Option (FileName × FileTree)) := do
  try
    let name := FileName.ofText entry.fileName
    if ← entry.path.isDir then
      let children ← (← entry.path.readDir).toList.filterMapM readEntry
      return some (name, .directory children)
    else
      let bytes ← IO.FS.readBinFile entry.path
      return some (name, .file ⟨bytes.toList, Tree.bare⟩)
  catch _ =>
    return none

def namesOf (parts : List String) : List FileName :=
  (parts.filter (· != "")).map FileName.ofText

/-- What a path leads to, with the names that lead there from the root. -/
def readPath (path : String) : IO (Option (List FileName × FileTree)) := do
  try
    let place ← IO.FS.realPath path
    let names := namesOf place.components
    if ← place.isDir then
      let children ← (← place.readDir).toList.filterMapM readEntry
      return some (names, .directory children)
    else
      let bytes ← IO.FS.readBinFile place
      return some (names, .file ⟨bytes.toList, Tree.bare⟩)
  catch _ =>
    return none

def directoriesOn (path : String) : IO (List (List FileName)) :=
  let pieces := Path.pieces path
  let parts := (List.range pieces.length).map fun count => Path.ofNames (pieces.take count)
  parts.filterMapM fun (part : String) => do
    try
      let place ← IO.FS.realPath part
      return if ← place.isDir then some (namesOf place.components) else none
    catch _ =>
      return none

def Command.paths : Command → List String
  | .scan arguments =>
      let beside := (Path.parent? arguments.path).getD "."
      arguments.path :: arguments.config.toList ++ Config.fileNames.map (Path.join beside)
  | .rules config => config.toList ++ Config.fileNames.map (Path.join ".")

def readSystem (paths : List String) : IO FileSystem := do
  let working := namesOf (← IO.currentDir).components
  let directories ← paths.flatMapM directoriesOn
  let places ← paths.filterMapM readPath
  let root := (working :: directories).foldl FileTree.addDirectory FileTree.empty
  return ⟨places.foldl FileTree.add root, working⟩

end CodeAudit

open CodeAudit in
def main (arguments : List String) : IO UInt32 := do
  match Command.ofArguments arguments with
  | .error usage =>
      if usage.exitCode == 0 then
        IO.println usage.message
      else
        IO.eprintln usage.message
      return usage.exitCode.toUInt32
  | .ok command =>
      let colors ← (← IO.getStdout).isTty
      let result := command.run colors (← readSystem command.paths)
      IO.print result.output
      IO.eprint result.errors
      return result.exitCode.toUInt32
