/-!
String literals in a line of source. A literal runs from a quote to the next quote of the same
kind; inside it a backslash takes away the meaning of the character that follows.
-/

namespace CodeAudit
namespace Literal

def isQuote (character : Char) : Bool :=
  character == '"' || character == '\'' || character == '\x60'

inductive State where
  | code
  | inside (quote : Char)
  | escaped (quote : Char)
deriving DecidableEq, Repr

def State.next : State → Char → State
  | code, character => if isQuote character then inside character else code
  | inside quote, character =>
      if character == '\\' then escaped quote
      else if character == quote then code
      else inside quote
  | escaped quote, _ => inside quote

def State.isInside : State → Bool
  | code => false
  | _ => true

def insideFrom : State → Nat → List Char → Bool
  | state, _, [] => state.isInside
  | state, 0, _ => state.isInside
  | state, bytes + 1, character :: rest =>
      insideFrom (state.next character) (bytes + 1 - character.utf8Size) rest

def isInside (line : List Char) (offset : Nat) : Bool :=
  insideFrom .code offset line

end Literal
end CodeAudit
