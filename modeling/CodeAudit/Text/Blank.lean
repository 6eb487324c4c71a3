/-!
Blank characters and words. A character is blank when Unicode gives it the property White_Space,
and the words of a text are its maximal runs of characters that are not blank.
-/

namespace CodeAudit
namespace Text

/-- Holds of exactly the 25 characters with the property White_Space. -/
def isBlank (character : Char) : Bool :=
  let code := character.toNat
  (0x09 ≤ code && code ≤ 0x0D) || code == 0x20 || code == 0x85 || code == 0xA0 ||
    code == 0x1680 || (0x2000 ≤ code && code ≤ 0x200A) || code == 0x2028 || code == 0x2029 ||
    code == 0x202F || code == 0x205F || code == 0x3000

def words (text : List Char) : List (List Char) :=
  (text.splitOnP isBlank).filter (fun run => !run.isEmpty)

def isBlankText (text : String) : Bool :=
  text.toList.all isBlank

end Text
end CodeAudit
