/-!
The characters of a YAML stream and a place among them. Line breaks are brought to one character
first, so a cursor moves by one character at a time and counts lines and columns.
-/

namespace CodeAudit
namespace Yaml

inductive YamlError where
  | controlCharacter
  | unexpectedCharacter
  | misplacedIndicator
  | tabIndentation
  | missingColon
  | documentMarkInScalar
  | unterminatedScalar
  | invalidEscape
  | invalidBlockHeader
  | invalidDirective
  | invalidAnchor
  | invalidTag
  | unknownTagHandle
  | unexpectedToken
  | missingDocumentStart
  | unknownAnchor
  | severalDocuments
  | invalidType (expected : String)
  | missingField (name : String)
  | duplicateField (name : String)
deriving DecidableEq, Repr

def YamlError.message : YamlError → String
  | controlCharacter => "control characters are not allowed"
  | unexpectedCharacter => "found character that cannot start any token"
  | misplacedIndicator => "block collections are not allowed in this context"
  | tabIndentation => "found a tab character where indentation is expected"
  | missingColon => "could not find expected ':'"
  | documentMarkInScalar => "found unexpected document indicator"
  | unterminatedScalar => "found unexpected end of stream"
  | invalidEscape => "found unknown escape character"
  | invalidBlockHeader => "did not find expected comment or line break"
  | invalidDirective => "found invalid directive"
  | invalidAnchor => "did not find expected alphabetic or numeric character"
  | invalidTag => "did not find expected tag"
  | unknownTagHandle => "found undefined tag handle"
  | unexpectedToken => "did not find expected node content"
  | missingDocumentStart => "did not find expected <document start>"
  | unknownAnchor => "unknown anchor"
  | severalDocuments => "found more than one document"
  | invalidType expected => "invalid type: expected " ++ expected
  | missingField name => "missing field `" ++ name ++ "`"
  | duplicateField name => "duplicate field `" ++ name ++ "`"

def isAllowed (character : Char) : Bool :=
  let code := character.toNat
  code == 0x09 || code == 0x0A || code == 0x0D || (0x20 ≤ code && code ≤ 0x7E) || code == 0x85 ||
    (0xA0 ≤ code && code ≤ 0xFFFD) || 0x10000 ≤ code

/-- Writes each carriage return, alone or before a line feed, and each next-line character as one
line feed. -/
def unifyBreaks : List Char → List Char
  | [] => []
  | '\r' :: '\n' :: rest => '\n' :: unifyBreaks rest
  | '\r' :: rest => '\n' :: unifyBreaks rest
  | '\u0085' :: rest => '\n' :: unifyBreaks rest
  | character :: rest => character :: unifyBreaks rest

def isBreak (character : Char) : Bool :=
  character == '\n' || character == '\u2028' || character == '\u2029'

def isSpacing (character : Char) : Bool :=
  character == ' ' || character == '\t'

def isGap (character : Char) : Bool :=
  isSpacing character || isBreak character

/-- Holds where a word cannot go on: before a blank, before a line break and at the end. -/
def endsWord : List Char → Bool
  | [] => true
  | character :: _ => isGap character

def isNameCharacter (character : Char) : Bool :=
  character.isAlphanum || character == '_' || character == '-'

structure Cursor where
  rest : List Char
  line : Nat
  column : Nat
deriving Repr

namespace Cursor

def head? (cursor : Cursor) : Option Char :=
  cursor.rest.head?

def advance (cursor : Cursor) (count : Nat) : Cursor :=
  ⟨cursor.rest.drop count, cursor.line, cursor.column + count⟩

def moveTo (cursor : Cursor) (rest : List Char) : Cursor :=
  ⟨rest, cursor.line, cursor.column + (cursor.rest.length - rest.length)⟩

def skipBreak (cursor : Cursor) : Cursor :=
  match cursor.rest with
  | character :: rest => if isBreak character then ⟨rest, cursor.line + 1, 0⟩ else cursor
  | [] => cursor

/-- Three hyphens or three full stops at the start of a line, with nothing attached. -/
def atDocumentMark (cursor : Cursor) : Bool :=
  cursor.column == 0 && endsWord (cursor.rest.drop 3) &&
    (cursor.rest.take 3 == ['-', '-', '-'] || cursor.rest.take 3 == ['.', '.', '.'])

def skipComment (cursor : Cursor) : Cursor :=
  let spaced := cursor.moveTo (cursor.rest.dropWhile isSpacing)
  if spaced.head? == some '#' then
    spaced.moveTo (spaced.rest.dropWhile (fun character => !isBreak character))
  else
    spaced

/-- The start of a text; a byte order mark before it takes up a column. -/
def ofText (text : String) : Except YamlError Cursor :=
  let characters := text.toList
  if characters.all isAllowed then
    let unified := unifyBreaks characters
    if unified.head? == some '\ufeff' then
      .ok ⟨unified.drop 1, 0, 1⟩
    else
      .ok ⟨unified, 0, 0⟩
  else
    .error .controlCharacter

end Cursor
end Yaml
end CodeAudit
