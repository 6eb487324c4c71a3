import CodeAudit.Config.Document
import CodeAudit.File.System

/-!
Configuration files: where they are looked for, and what can go wrong with one.
-/

namespace CodeAudit

inductive ConfigFileError where
  | unreadable (path : String) (reason : FileError)
  | invalid (path : String) (reason : ConfigTextError)
deriving DecidableEq, Repr

namespace ConfigFileError

def title : ConfigFileError → String
  | unreadable path _ => "Failed to read config " ++ path
  | invalid path _ => "Invalid config " ++ path

def reason : ConfigFileError → String
  | unreadable _ reason => reason.message
  | invalid _ reason => reason.message

def message (error : ConfigFileError) : String :=
  error.title ++ ": " ++ error.reason

end ConfigFileError

namespace Config

def fileNames : List String :=
  ["sourcelint.yaml", ".sourcelint.yaml", "sourcelint.yml"]

def ofFile (system : FileSystem) (path : String) : Except ConfigFileError Config :=
  match system.readText path with
  | .error reason => .error (.unreadable path reason)
  | .ok text => (ofText text).mapError (.invalid path)

def discover? (system : FileSystem) (directory : String) : Option String :=
  (fileNames.map (Path.join directory)).find? system.isFileAt

/-- The configuration at a path that was asked for, or else that of the directory, or else the
default one. -/
def load (system : FileSystem) (explicit : Option String) (directory : String) :
    Except ConfigFileError Config :=
  match explicit.or (discover? system directory) with
  | some path => ofFile system path
  | none => .ok {}

end Config
end CodeAudit
