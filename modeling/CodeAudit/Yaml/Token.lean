import CodeAudit.Yaml.Scalar

/-!
The tokens of a YAML stream. A key is known for one only when its colon comes, so the place of each
possible key is kept until then and the token that announces it is put in there.
-/

namespace CodeAudit
namespace Yaml

inductive Token where
  | versionDirective (major minor : Nat)
  | tagDirective (handle target : String)
  | documentStart
  | documentEnd
  | blockSequenceStart
  | blockMappingStart
  | blockEnd
  | flowSequenceStart
  | flowSequenceEnd
  | flowMappingStart
  | flowMappingEnd
  | blockEntry
  | flowEntry
  | key
  | value
  | alias (name : String)
  | anchor (name : String)
  | tag (handle suffix : String)
  | scalar (style : ScalarStyle) (text : String)
deriving DecidableEq, Repr

namespace Tag

def isUriCharacter (verbatim : Bool) (character : Char) : Bool :=
  isNameCharacter character ||
    [';', '/', '?', ':', '@', '&', '=', '+', '$', '.', '!', '~', '*', '\'', '(', ')'].contains
      character ||
    (verbatim && [',', '[', ']'].contains character)

def escapedByte? : List Char → Option (UInt8 × List Char)
  | '%' :: high :: low :: rest => do
      return (UInt8.ofNat (16 * (← Quoted.hexValue? high) + (← Quoted.hexValue? low)), rest)
  | _ => none

def encodedSize? (first : UInt8) : Option Nat :=
  if first &&& 0x80 == 0x00 then some 1
  else if first &&& 0xE0 == 0xC0 then some 2
  else if first &&& 0xF0 == 0xE0 then some 3
  else if first &&& 0xF8 == 0xF0 then some 4
  else none

def continuationBytes? : Nat → List Char → Option (List UInt8 × List Char)
  | 0, characters => some ([], characters)
  | count + 1, characters => do
      let (byte, rest) ← escapedByte? characters
      if byte &&& 0xC0 == 0x80 then
        let (bytes, rest) ← continuationBytes? count rest
        return (byte :: bytes, rest)
      else
        none

def escapedCharacter? (characters : List Char) : Option (List UInt8 × List Char) := do
  let (first, rest) ← escapedByte? characters
  let size ← encodedSize? first
  let (bytes, rest) ← continuationBytes? (size - 1) rest
  return (first :: bytes, rest)

def readUri (verbatim : Bool) :
    Nat → List Char → Except YamlError (List UInt8 × List Char)
  | 0, characters => .ok ([], characters)
  | fuel + 1, characters =>
      match characters with
      | [] => .ok ([], [])
      | character :: rest =>
          if character == '%' then
            match escapedCharacter? characters with
            | none => .error .invalidTag
            | some (bytes, rest) =>
                (readUri verbatim fuel rest).map fun (more, rest) => (bytes ++ more, rest)
          else if isUriCharacter verbatim character then
            (readUri verbatim fuel rest).map fun (more, rest) =>
              (character.toString.toUTF8.toList ++ more, rest)
          else
            .ok ([], characters)

def uri (verbatim : Bool) (characters : List Char) : Except YamlError (String × List Char) := do
  let (bytes, rest) ← readUri verbatim characters.length characters
  return ((String.fromUTF8? ⟨bytes.toArray⟩).getD "", rest)

def handle (characters : List Char) : Except YamlError (List Char × List Char) :=
  match characters with
  | '!' :: rest =>
      let name := rest.takeWhile isNameCharacter
      let behind := rest.dropWhile isNameCharacter
      if behind.head? == some '!' then
        .ok ('!' :: name ++ ['!'], behind.drop 1)
      else
        .ok ('!' :: name, behind)
  | _ => .error .invalidTag

/-- Reads a tag with its exclamation mark: written out between angle brackets, under a named handle
or under the primary handle. -/
def read (inFlow : Bool) (characters : List Char) : Except YamlError (Token × List Char) := do
  let (token, rest) ← (do
    if characters.take 2 == ['!', '<'] then
      let (suffix, rest) ← uri true (characters.drop 2)
      if suffix.isEmpty || rest.head? != some '>' then
        throw .invalidTag
      return (Token.tag "" suffix, rest.drop 1)
    let (name, rest) ← handle characters
    if 1 < name.length && name.getLast? == some '!' then
      let (suffix, rest) ← uri false rest
      if suffix.isEmpty then
        throw .invalidTag
      return (Token.tag (String.ofList name) suffix, rest)
    let (suffix, rest) ← uri false rest
    let suffix := String.ofList (name.drop 1) ++ suffix
    return (if suffix.isEmpty then .tag "" "!" else .tag "!" suffix, rest)
    : Except YamlError (Token × List Char))
  if endsWord rest || (inFlow && rest.head? == some ',') then
    return (token, rest)
  throw .invalidTag

end Tag

namespace Directive

def number (characters : List Char) : Except YamlError (Nat × List Char) :=
  let digits := characters.takeWhile Char.isDigit
  if digits.isEmpty || 9 < digits.length then
    .error .invalidDirective
  else
    .ok (digits.foldl (fun value digit => 10 * value + (digit.toNat - '0'.toNat)) 0,
      characters.dropWhile Char.isDigit)

def version (characters : List Char) : Except YamlError (Token × List Char) := do
  let (major, rest) ← number (characters.dropWhile isSpacing)
  if rest.head? != some '.' then
    throw .invalidDirective
  let (minor, rest) ← number (rest.drop 1)
  return (.versionDirective major minor, rest)

def tag (characters : List Char) : Except YamlError (Token × List Char) := do
  let (handle, rest) ← Tag.handle (characters.dropWhile isSpacing)
  if (handle.getLast? != some '!') || !rest.head?.any isSpacing then
    throw .invalidDirective
  let (target, rest) ← Tag.uri true (rest.dropWhile isSpacing)
  if target.isEmpty || !endsWord rest then
    throw .invalidDirective
  return (.tagDirective (String.ofList handle) target, rest)

def read (cursor : Cursor) : Except YamlError (Token × Cursor) := do
  let name := cursor.rest.takeWhile isNameCharacter
  let behind := cursor.rest.dropWhile isNameCharacter
  if !endsWord behind then
    throw .invalidDirective
  let (token, rest) ←
    if name == "YAML".toList then version behind
    else if name == "TAG".toList then tag behind
    else .error .invalidDirective
  let cursor := (cursor.moveTo rest).skipComment
  if cursor.head?.any fun character => !isBreak character then
    throw .invalidDirective
  return (token, cursor.skipBreak)

end Directive

def anchorName (characters : List Char) : Except YamlError (String × List Char) :=
  let name := characters.takeWhile isNameCharacter
  let rest := characters.dropWhile isNameCharacter
  let closes := rest.head?.any ['?', ':', ',', ']', '}', '%', '@', '`'].contains
  if name.isEmpty || !(endsWord rest || closes) then
    .error .invalidAnchor
  else
    .ok (String.ofList name, rest)

/-- A token that may turn out to start a key: its place among the tokens and in the text, and
whether the block it stands in allows nothing else there. -/
structure PossibleKey where
  position : Nat
  line : Nat
  column : Nat
  isRequired : Bool
deriving Repr

/-- A key and its colon stand on one line, at most 1024 characters apart. -/
def PossibleKey.isStale (key : PossibleKey) (cursor : Cursor) : Bool :=
  key.line < cursor.line || key.column + 1024 < cursor.column

/-- The tokens read so far, newest first, with the open blocks, innermost first, and a possible key
for the current bracket and for each one around it. -/
structure Scanner where
  cursor : Cursor
  tokens : List Token
  blocks : List Nat
  key : Option PossibleKey
  outerKeys : List (Option PossibleKey)
  keyAllowed : Bool

namespace Scanner

def start (cursor : Cursor) : Scanner :=
  ⟨cursor, [], [], none, [], true⟩

def inFlow (scanner : Scanner) : Bool :=
  !scanner.outerKeys.isEmpty

def emit (scanner : Scanner) (token : Token) : Scanner :=
  { scanner with tokens := token :: scanner.tokens }

def insert (scanner : Scanner) (position : Nat) (tokens : List Token) : Scanner :=
  let newer := scanner.tokens.length - position
  { scanner with
    tokens := scanner.tokens.take newer ++ tokens.reverse ++ scanner.tokens.drop newer }

def opensBlock (scanner : Scanner) (column : Nat) : Bool :=
  !scanner.inFlow && scanner.blocks.head?.all (· < column)

def openBlock (scanner : Scanner) (token : Token) : Scanner :=
  let column := scanner.cursor.column
  if scanner.opensBlock column then
    { scanner.emit token with blocks := column :: scanner.blocks }
  else
    scanner

def closeBlocks (scanner : Scanner) (closes : Nat → Bool) : Scanner :=
  if scanner.inFlow then
    scanner
  else
    let closed := scanner.blocks.takeWhile closes
    { scanner with
      tokens := closed.map (fun _ => Token.blockEnd) ++ scanner.tokens
      blocks := scanner.blocks.dropWhile closes }

def discardKey (scanner : Scanner) : Except YamlError Scanner :=
  if scanner.key.any PossibleKey.isRequired then
    .error .missingColon
  else
    .ok { scanner with key := none }

def noteKey (scanner : Scanner) : Except YamlError Scanner :=
  if scanner.keyAllowed then do
    let cursor := scanner.cursor
    let isRequired := !scanner.inFlow && scanner.blocks.head? == some cursor.column
    let scanner ← scanner.discardKey
    return { scanner with
      key := some ⟨scanner.tokens.length, cursor.line, cursor.column, isRequired⟩ }
  else
    .ok scanner

def discardStale (scanner : Scanner) : Except YamlError Scanner :=
  let isStale := fun key : PossibleKey => key.isStale scanner.cursor
  let keys := scanner.key :: scanner.outerKeys
  if keys.any fun key => key.any fun key => isStale key && key.isRequired then
    .error .missingColon
  else
    let remaining := fun key : Option PossibleKey => key.filter fun key => !isStale key
    .ok { scanner with
      key := remaining scanner.key
      outerKeys := scanner.outerKeys.map remaining }

/-- Passes over blanks, comments and line breaks; a line break outside brackets allows a key. Tabs
are blanks only where no key may stand. -/
def skipGap (inFlow : Bool) (line column : Nat) (keyAllowed inComment : Bool) :
    List Char → Cursor × Bool
  | [] => (⟨[], line, column⟩, keyAllowed)
  | character :: rest =>
      if isBreak character then
        skipGap inFlow (line + 1) 0 (keyAllowed || !inFlow) false rest
      else if inComment || character == '#' then
        skipGap inFlow line (column + 1) keyAllowed true rest
      else if character == ' ' || (character == '\t' && (inFlow || !keyAllowed)) then
        skipGap inFlow line (column + 1) keyAllowed false rest
      else
        (⟨character :: rest, line, column⟩, keyAllowed)

def toNextToken (scanner : Scanner) : Except YamlError Scanner := do
  let cursor := scanner.cursor
  let (cursor, keyAllowed) :=
    skipGap scanner.inFlow cursor.line cursor.column scanner.keyAllowed false cursor.rest
  let scanner ← { scanner with cursor, keyAllowed }.discardStale
  return scanner.closeBlocks (cursor.column < ·)

def take (scanner : Scanner) (count : Nat) (token : Token) : Scanner :=
  { scanner.emit token with cursor := scanner.cursor.advance count }

def leaveDocument (scanner : Scanner) : Except YamlError Scanner := do
  let scanner ← (scanner.closeBlocks fun _ => true).discardKey
  return { scanner with keyAllowed := false }

def directive (scanner : Scanner) : Except YamlError Scanner := do
  let scanner ← scanner.leaveDocument
  let (token, cursor) ← Directive.read (scanner.cursor.advance 1)
  return { scanner.emit token with cursor }

def documentMark (scanner : Scanner) : Except YamlError Scanner := do
  let scanner ← scanner.leaveDocument
  let isStart := scanner.cursor.head? == some '-'
  return scanner.take 3 (if isStart then .documentStart else .documentEnd)

def flowStart (scanner : Scanner) (token : Token) : Except YamlError Scanner := do
  let scanner ← scanner.noteKey
  return { scanner.take 1 token with
    key := none
    outerKeys := scanner.key :: scanner.outerKeys
    keyAllowed := true }

def flowEnd (scanner : Scanner) (token : Token) : Except YamlError Scanner := do
  let scanner ← scanner.discardKey
  let scanner := { scanner.take 1 token with keyAllowed := false }
  match scanner.outerKeys with
  | key :: outerKeys => return { scanner with key, outerKeys }
  | [] => return scanner

def flowEntry (scanner : Scanner) : Except YamlError Scanner := do
  let scanner ← scanner.discardKey
  return { scanner.take 1 .flowEntry with keyAllowed := true }

def openAtIndicator (scanner : Scanner) (token : Token) : Except YamlError Scanner :=
  if scanner.inFlow then .ok scanner
  else if scanner.keyAllowed then .ok (scanner.openBlock token)
  else .error .misplacedIndicator

def blockEntry (scanner : Scanner) : Except YamlError Scanner := do
  let scanner ← (← scanner.openAtIndicator .blockSequenceStart).discardKey
  return { scanner.take 1 .blockEntry with keyAllowed := true }

def explicitKey (scanner : Scanner) : Except YamlError Scanner := do
  let scanner ← (← scanner.openAtIndicator .blockMappingStart).discardKey
  return { scanner.take 1 .key with keyAllowed := !scanner.inFlow }

/-- A colon turns the possible key before it into a key, with the mapping that it may open. -/
def value (scanner : Scanner) : Except YamlError Scanner :=
  match scanner.key with
  | some key =>
      let opens := scanner.opensBlock key.column
      let announced := scanner.insert key.position
        (if opens then [.blockMappingStart, .key] else [.key])
      let blocks := if opens then key.column :: scanner.blocks else scanner.blocks
      .ok { announced.take 1 .value with blocks, key := none, keyAllowed := false }
  | none => do
      let scanner ← scanner.openAtIndicator .blockMappingStart
      return { scanner.take 1 .value with keyAllowed := !scanner.inFlow }

def keyed (scanner : Scanner) (read : Cursor → Except YamlError (Token × Cursor)) :
    Except YamlError Scanner := do
  let scanner ← scanner.noteKey
  let (token, cursor) ← read scanner.cursor
  return { scanner.emit token with cursor, keyAllowed := false }

def named (scanner : Scanner) (token : String → Token) : Except YamlError Scanner :=
  scanner.keyed fun cursor => do
    let (name, rest) ← anchorName (cursor.rest.drop 1)
    return (token name, cursor.moveTo rest)

def tag (scanner : Scanner) : Except YamlError Scanner :=
  scanner.keyed fun cursor => do
    let (token, rest) ← Tag.read scanner.inFlow cursor.rest
    return (token, cursor.moveTo rest)

def quoted (scanner : Scanner) (single : Bool) : Except YamlError Scanner :=
  scanner.keyed fun cursor => do
    let (text, cursor) ← Quoted.read single (cursor.advance 1)
    let style := if single then ScalarStyle.singleQuoted else .doubleQuoted
    return (.scalar style (String.ofList text), cursor)

def block (scanner : Scanner) (folds : Bool) : Except YamlError Scanner := do
  let scanner ← scanner.discardKey
  let (text, cursor) ← Block.read folds scanner.blocks.head? (scanner.cursor.advance 1)
  let style := if folds then ScalarStyle.folded else .literal
  return { scanner.emit (.scalar style (String.ofList text)) with cursor, keyAllowed := true }

/-- A key may follow a plain scalar that reached the end of its line. -/
def plain (scanner : Scanner) : Except YamlError Scanner := do
  let scanner ← scanner.noteKey
  let indentation := scanner.blocks.head?.elim 0 (· + 1)
  let (text, gap, cursor) ← Plain.read scanner.inFlow indentation scanner.cursor
  return { scanner.emit (.scalar .plain (String.ofList text)) with
    cursor, keyAllowed := gap.isBroken }

def indicators : List Char :=
  ['-', '?', ':', ',', '[', ']', '{', '}', '#', '&', '*', '!', '|', '>', '\'', '"', '%', '@', '`']

def startsPlain (inFlow : Bool) (character : Char) (rest : List Char) : Bool :=
  !(isGap character || indicators.contains character) ||
    (character == '-' && !rest.head?.any isSpacing) ||
    (!inFlow && (character == '?' || character == ':') && !endsWord rest)

def token (scanner : Scanner) (character : Char) (rest : List Char) : Except YamlError Scanner :=
  let inFlow := scanner.inFlow
  if scanner.cursor.column == 0 && character == '%' then
    scanner.directive
  else if scanner.cursor.atDocumentMark then
    scanner.documentMark
  else
    match character with
    | '[' => scanner.flowStart .flowSequenceStart
    | '{' => scanner.flowStart .flowMappingStart
    | ']' => scanner.flowEnd .flowSequenceEnd
    | '}' => scanner.flowEnd .flowMappingEnd
    | ',' => scanner.flowEntry
    | '*' => scanner.named .alias
    | '&' => scanner.named .anchor
    | '!' => scanner.tag
    | '\'' => scanner.quoted true
    | '"' => scanner.quoted false
    | _ =>
        if character == '-' && endsWord rest then scanner.blockEntry
        else if character == '?' && (inFlow || endsWord rest) then scanner.explicitKey
        else if character == ':' && (inFlow || endsWord rest) then scanner.value
        else if character == '|' && !inFlow then scanner.block false
        else if character == '>' && !inFlow then scanner.block true
        else if startsPlain inFlow character rest then scanner.plain
        else .error .unexpectedCharacter

def run : Nat → Scanner → Except YamlError (List Token)
  | 0, _ => .error .unexpectedToken
  | fuel + 1, scanner => do
      let scanner ← scanner.toNextToken
      match scanner.cursor.rest with
      | [] =>
          let scanner ← scanner.leaveDocument
          return scanner.tokens.reverse
      | character :: rest => run fuel (← scanner.token character rest)

end Scanner

namespace Token

def scan (text : String) : Except YamlError (List Token) := do
  let cursor ← Cursor.ofText text
  Scanner.run (cursor.rest.length + 1) (Scanner.start cursor)

end Token
end Yaml
end CodeAudit
