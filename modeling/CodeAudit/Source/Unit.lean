import CodeAudit.Language
import CodeAudit.Source.Tree
import CodeAudit.Text.Lines
import CodeAudit.Text.Quoted

/-!
Source units: a text under a path, with its language and its syntax tree.
-/

namespace CodeAudit

structure SourceFile where
  path : String
  source : String
  tree : Tree

structure SourceUnit where
  path : String
  language : Language
  source : String
  tree : Tree

inductive UnitError where
  | unsupported (path : String)
  | emptyPath
deriving DecidableEq, Repr

def UnitError.message : UnitError → String
  | unsupported path => "unsupported source file: " ++ path
  | emptyPath => "source unit path must not be empty"

namespace SourceUnit

def parseAs (file : SourceFile) (language : Language) : Except UnitError SourceUnit :=
  if file.path == "" then
    .error .emptyPath
  else
    .ok ⟨file.path, language, file.source, file.tree⟩

def parse (file : SourceFile) : Except UnitError SourceUnit :=
  match Language.ofPath? file.path with
  | some language => parseAs file language
  | none => .error (.unsupported file.path)

def ofFiles (files : List SourceFile) : List SourceUnit :=
  files.filterMap fun file => (parse file).toOption

/-- The text between two byte offsets, empty where they cut a character. -/
def textBetween (unit : SourceUnit) (startByte endByte : Nat) : String :=
  (String.fromUTF8? (unit.source.toUTF8.extract startByte endByte)).getD ""

def nodeText (unit : SourceUnit) (node : Node) : String :=
  unit.textBetween node.startByte node.endByte

def lineCount (unit : SourceUnit) : Nat :=
  Text.lineCount unit.source

def hasErrors (unit : SourceUnit) : Bool :=
  unit.tree.hasErrors

def describe (unit : SourceUnit) : String :=
  "SourceUnit \x7b path: " ++ Text.quoted unit.path ++ ", language: " ++
    Text.quoted unit.language.id ++ ", bytes: " ++ toString unit.source.utf8ByteSize ++ " \x7d"

end SourceUnit
end CodeAudit
