import CodeAudit.Glob.Basic
import CodeAudit.Regex.Program
import CodeAudit.Text.Quoted

/-!
Globs as regular expressions over the bytes of a path. A byte is taken for the character of the same
number.
-/

namespace CodeAudit
namespace Glob

open Unicode (CodeSet)

def bytes (text : String) : List Nat :=
  text.toUTF8.toList.map UInt8.toNat

def allBytes : CodeSet := ⟨[(0, 255)]⟩

def anyText : Regex :=
  .iterate 0 none true (.oneOf allBytes)

def byteText (text : String) : Regex :=
  Regex.seqAll ((bytes text).map fun byte => .oneOf (.single byte))

def alternatives : List Regex → Regex
  | [] => .empty
  | [only] => only
  | first :: rest => .either first (alternatives rest)

def inOrder : Regex → Regex → Regex
  | .empty, second => second
  | first, .empty => first
  | first, second => .seq first second

/-- The bytes that a range of characters stands for: all bytes of its ends, and those from the last
byte of the low end to the first byte of the high end. -/
def rangeBytes (low high : Char) : List (Nat × Nat) :=
  let lowBytes := bytes low.toString
  let highBytes := bytes high.toString
  let ends := (lowBytes ++ highBytes).map fun byte => (byte, byte)
  if low == high then ends else ends ++ [(lowBytes.getLastD 0, highBytes.headD 0)]

def classBytes (negated : Bool) (ranges : List (Char × Char)) : CodeSet :=
  let listed := CodeSet.ofRanges (ranges.flatMap fun (low, high) => rangeBytes low high)
  if negated then allBytes.difference listed else listed

mutual

/-- The expression of one part; a branch that is empty adds no alternative. -/
def Part.regex : Part → Regex
  | .literal character => byteText character.toString
  | .anyByte => .oneOf allBytes
  | .anyBytes => anyText
  | .bytesIn negated ranges => .oneOf (classBytes negated ranges)
  | .leadingDirectories =>
      .either (.iterate 0 (some 1) true (byteText "/")) (.seq anyText (byteText "/"))
  | .trailingPath => .seq (byteText "/") anyText
  | .innerDirectories =>
      .either (byteText "/") (.seq (byteText "/") (.seq anyText (byteText "/")))
  | .oneOf branches => alternatives (branchRegexes branches)

def partsRegex : List Part → Regex
  | [] => .empty
  | part :: parts => inOrder part.regex (partsRegex parts)

def branchRegexes : List (List Part) → List Regex
  | [] => []
  | parts :: branches =>
      match partsRegex parts with
      | .empty => branchRegexes branches
      | regex => regex :: branchRegexes branches

end

/-- The expression of a whole glob; two stars alone stand for any path. -/
def regex (glob : Glob) : Regex :=
  match glob.parts with
  | [.leadingDirectories] => anyText
  | parts => partsRegex parts

def program (glob : Glob) : Regex.Program :=
  (Regex.seq (.look .textStart) (.seq glob.regex (.look .textEnd))).program

def matchesPath (program : Regex.Program) (path : String) : Bool :=
  (program.find? ⟨none, (bytes path).map Char.ofNat, 0⟩).isSome

end Glob

structure ExcludeError where
  pattern : String
  reason : Glob.GlobError
deriving DecidableEq, Repr

def ExcludeError.message (error : ExcludeError) : String :=
  "invalid exclude pattern " ++ Text.quoted error.pattern ++ ": error parsing glob '" ++
    error.pattern ++ "': " ++ error.reason.message

structure Excludes where
  programs : List Regex.Program

namespace Excludes

def none : Excludes := ⟨[]⟩

def ofPatterns (patterns : List String) : Except ExcludeError Excludes := do
  let globs ← patterns.mapM fun pattern => (Glob.ofText pattern).mapError (ExcludeError.mk pattern)
  return ⟨globs.map Glob.program⟩

def contains (excludes : Excludes) (path : String) : Bool :=
  excludes.programs.any fun program => Glob.matchesPath program path

end Excludes
end CodeAudit
