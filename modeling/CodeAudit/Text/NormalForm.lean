import CodeAudit.Text.Blank
import CodeAudit.Text.Lines

/-!
The normal form of a source text: its lines that hold a word, each with its words joined by one
space. Two texts that differ only in layout have the same normal form.
-/

namespace CodeAudit
namespace Text

def wordLines (text : List Char) : List (List (List Char)) :=
  ((lines text).map words).filter (fun line => !line.isEmpty)

def normalize (text : List Char) : List Char :=
  ['\n'].intercalate ((wordLines text).map [' '].intercalate)

/-- The lines of the normal form, of which the empty text has none. -/
def significantLines (text : List Char) : Nat :=
  (lines (normalize text)).length

def normalForm (source : String) : String :=
  String.ofList (normalize source.toList)

end Text
end CodeAudit
