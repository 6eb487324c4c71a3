import CodeAudit.Unicode.Property

/-!
Quoted text: a text between double quotes, in which the quote, the backslash and every character
that would not show on its own are written as escapes.
-/

namespace CodeAudit
namespace Text

/-- Controls, format characters, private and unassigned code points, and all separators but the
space. -/
def hiddenCharacters : Unicode.CodeSet :=
  (Unicode.CodeSet.unions
    [Unicode.category "cc", Unicode.category "cf", Unicode.category "co", Unicode.category "zs",
      Unicode.category "zl", Unicode.category "zp", Unicode.assigned.complement]).difference
    (Unicode.CodeSet.ofChar ' ')

def extendingCharacters : Unicode.CodeSet :=
  Unicode.property "graphemeextend"

def isShown (character : Char) : Bool :=
  if character.toNat < 0x80 then
    0x20 ≤ character.toNat && character.toNat < 0x7F
  else
    !hiddenCharacters.contains character && !extendingCharacters.contains character

def quotedCharacter (character : Char) : List Char :=
  match character with
  | '\x00' => ['\\', '0']
  | '\t' => ['\\', 't']
  | '\r' => ['\\', 'r']
  | '\n' => ['\\', 'n']
  | '"' => ['\\', '"']
  | '\\' => ['\\', '\\']
  | _ =>
      if isShown character then
        [character]
      else
        ['\\', 'u', '\x7b'] ++ Nat.toDigits 16 character.toNat ++ ['\x7d']

def quoted (text : String) : String :=
  String.ofList (['"'] ++ text.toList.flatMap quotedCharacter ++ ['"'])

/-- A path between double quotes, in which apostrophes are written as escapes too. -/
def quotedPath (path : String) : String :=
  String.ofList (['"'] ++ path.toList.flatMap (fun character =>
    if character == '\'' then ['\\', '\''] else quotedCharacter character) ++ ['"'])

end Text
end CodeAudit
