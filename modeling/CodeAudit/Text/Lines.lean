/-!
Lines of a text. A line ends at a line feed; neither the line feed nor a carriage return right
before it belongs to the line. A text that ends in a line feed has no empty last line.
-/

namespace CodeAudit
namespace Text

def lines : List Char → List (List Char)
  | [] => []
  | '\n' :: rest => [] :: lines rest
  | '\r' :: '\n' :: rest => [] :: lines rest
  | character :: rest =>
      match lines rest with
      | [] => [[character]]
      | line :: others => (character :: line) :: others

def lineCount (text : String) : Nat :=
  (lines text.toList).length

end Text
end CodeAudit
