import CodeAudit.Yaml.Cursor

/-!
The texts of YAML scalars. A plain or quoted scalar is a sequence of words with gaps between them,
and a gap with a line break is folded; a block scalar is a sequence of indented lines.
-/

namespace CodeAudit
namespace Yaml

inductive ScalarStyle where
  | plain
  | singleQuoted
  | doubleQuoted
  | literal
  | folded
deriving DecidableEq, Repr

/-- What stands between two words: blanks, or line breaks with the blanks around them dropped. -/
inductive Gap where
  | blanks (text : List Char)
  | breaks (first more : List Char)
deriving Repr

namespace Gap

def add (gap : Gap) (character : Char) : Gap :=
  match gap with
  | blanks text =>
      if isBreak character then breaks [character] [] else blanks (text ++ [character])
  | breaks first more =>
      if isBreak character then breaks first (more ++ [character]) else gap

def isBroken : Gap → Bool
  | blanks _ => false
  | breaks _ _ => true

/-- A single line feed is folded into a space, and the first of several is dropped. -/
def folded : Gap → List Char
  | blanks text => text
  | breaks first more =>
      if first == ['\n'] then
        if more.isEmpty then [' '] else more
      else
        first ++ more

/-- Reads a gap to its end; after a line break a tab must stand behind the indentation. -/
def read (indentation : Nat) (gap : Gap) (line column : Nat) :
    List Char → Except YamlError (Gap × Cursor)
  | [] => .ok (gap, ⟨[], line, column⟩)
  | character :: rest =>
      if isBreak character then
        read indentation (gap.add character) (line + 1) 0 rest
      else if isSpacing character then
        if gap.isBroken && column < indentation && character == '\t' then
          .error .tabIndentation
        else
          read indentation (gap.add character) line (column + 1) rest
      else
        .ok (gap, ⟨character :: rest, line, column⟩)

end Gap

namespace Plain

def isFlowIndicator (character : Char) : Bool :=
  [',', '[', ']', '{', '}'].contains character

/-- Splits off the word at the start, which ends before a gap, before a colon that ends a key and,
inside brackets, before a bracket or a comma. -/
def word (inFlow : Bool) : List Char → Except YamlError (List Char × List Char)
  | [] => .ok ([], [])
  | character :: rest =>
      if isGap character then
        .ok ([], character :: rest)
      else if inFlow && character == ':' &&
          rest.head?.any (fun next => isFlowIndicator next || next == '?') then
        .error .unexpectedCharacter
      else if (character == ':' && endsWord rest) || (inFlow && isFlowIndicator character) then
        .ok ([], character :: rest)
      else
        (word inFlow rest).map fun (text, remaining) => (character :: text, remaining)

def readFrom (inFlow : Bool) (indentation : Nat) :
    Nat → List Char → Gap → Cursor → Except YamlError (List Char × Gap × Cursor)
  | 0, text, gap, cursor => .ok (text, gap, cursor)
  | fuel + 1, text, gap, cursor => do
      if cursor.atDocumentMark || cursor.head? == some '#' then
        return (text, gap, cursor)
      let (next, remaining) ← word inFlow cursor.rest
      if next.isEmpty then
        return (text, gap, cursor)
      let text := text ++ gap.folded ++ next
      let cursor := cursor.moveTo remaining
      if !remaining.head?.any isGap then
        return (text, .blanks [], cursor)
      let (gap, cursor) ← Gap.read indentation (.blanks []) cursor.line cursor.column remaining
      if !inFlow && cursor.column < indentation then
        return (text, gap, cursor)
      readFrom inFlow indentation fuel text gap cursor

def read (inFlow : Bool) (indentation : Nat) (cursor : Cursor) :
    Except YamlError (List Char × Gap × Cursor) :=
  readFrom inFlow indentation (cursor.rest.length + 1) [] (.blanks []) cursor

end Plain

namespace Quoted

def escapes : List (Char × Char) :=
  [('0', '\x00'), ('a', '\x07'), ('b', '\x08'), ('t', '\t'), ('\t', '\t'), ('n', '\n'),
    ('v', '\x0b'), ('f', '\x0c'), ('r', '\r'), ('e', '\x1b'), (' ', ' '), ('"', '"'), ('/', '/'),
    ('\\', '\\'), ('N', '\u0085'), ('_', '\u00a0'), ('L', '\u2028'), ('P', '\u2029')]

def hexEscapes : List (Char × Nat) :=
  [('x', 2), ('u', 4), ('U', 8)]

def hexValue? (digit : Char) : Option Nat :=
  if digit.isDigit then some (digit.toNat - '0'.toNat)
  else if 'a' ≤ digit && digit ≤ 'f' then some (digit.toNat - 'a'.toNat + 10)
  else if 'A' ≤ digit && digit ≤ 'F' then some (digit.toNat - 'A'.toNat + 10)
  else none

def hexNumber? (digits : List Char) : Option Nat :=
  digits.foldl (fun number digit => do return 16 * (← number) + (← hexValue? digit)) (some 0)

def hexCharacter? (count : Nat) (characters : List Char) : Option Char := do
  let digits := characters.take count
  let code ← hexNumber? digits
  if digits.length == count && code.isValidChar then some (Char.ofNat code) else none

def singleRun : List Char → List Char × List Char
  | [] => ([], [])
  | '\'' :: '\'' :: rest => let (text, remaining) := singleRun rest; ('\'' :: text, remaining)
  | character :: rest =>
      if isGap character || character == '\'' then
        ([], character :: rest)
      else
        let (text, remaining) := singleRun rest
        (character :: text, remaining)

/-- A run between quotation marks, up to a gap, the closing mark or an escaped line break; says
whether it ended behind an escaped line break. -/
def doubleRun (characters : List Char) : Except YamlError (List Char × Bool × List Char) :=
  match characters with
  | [] => .ok ([], false, [])
  | '\\' :: rest =>
      match rest with
      | [] => .error .invalidEscape
      | selector :: rest =>
          if isBreak selector then
            .ok ([], true, rest)
          else
            match escapes.lookup selector with
            | some character =>
                (doubleRun rest).map fun (text, result) => (character :: text, result)
            | none =>
                match hexEscapes.lookup selector with
                | none => .error .invalidEscape
                | some count =>
                    match hexCharacter? count rest with
                    | none => .error .invalidEscape
                    | some character =>
                        (doubleRun (rest.drop count)).map fun (text, result) =>
                          (character :: text, result)
  | character :: rest =>
      if isGap character || character == '"' then
        .ok ([], false, character :: rest)
      else
        (doubleRun rest).map fun (text, result) => (character :: text, result)
termination_by characters.length

def run (single : Bool) (characters : List Char) :
    Except YamlError (List Char × Bool × List Char) :=
  if single then
    let (text, remaining) := singleRun characters
    .ok (text, false, remaining)
  else
    doubleRun characters

def mark (single : Bool) : Char :=
  if single then '\'' else '"'

def readFrom (single : Bool) :
    Nat → List Char → Cursor → Except YamlError (List Char × Cursor)
  | 0, _, _ => .error .unterminatedScalar
  | fuel + 1, text, cursor => do
      if cursor.atDocumentMark then
        throw .documentMarkInScalar
      if cursor.rest.isEmpty then
        throw .unterminatedScalar
      let (next, continued, remaining) ← run single cursor.rest
      let text := text ++ next
      let cursor := if continued then ⟨remaining, cursor.line + 1, 0⟩ else cursor.moveTo remaining
      if cursor.head? == some (mark single) then
        return (text, cursor.advance 1)
      let start := if continued then Gap.breaks [] [] else .blanks []
      let (gap, cursor) ← Gap.read 0 start cursor.line cursor.column remaining
      readFrom single fuel (text ++ gap.folded) cursor

def read (single : Bool) (cursor : Cursor) : Except YamlError (List Char × Cursor) :=
  readFrom single (cursor.rest.length + 1) [] cursor

end Quoted

namespace Block

inductive Chomping where
  | strip
  | clip
  | keep
deriving DecidableEq, Repr

/-- How a block scalar is announced; no indentation means that its first line shows it. -/
structure Header where
  chomping : Chomping
  indentation : Option Nat
deriving Repr

def chomping? : Char → Option Chomping
  | '+' => some .keep
  | '-' => some .strip
  | _ => none

def readChomping (characters : List Char) : Chomping × List Char :=
  match characters with
  | character :: rest =>
      match chomping? character with
      | some chomping => (chomping, rest)
      | none => (.clip, characters)
  | [] => (.clip, characters)

def readIndentation (characters : List Char) :
    Except YamlError (Option Nat × List Char) :=
  match characters with
  | character :: rest =>
      if character == '0' then .error .invalidBlockHeader
      else if character.isDigit then .ok (some (character.toNat - '0'.toNat), rest)
      else .ok (none, characters)
  | [] => .ok (none, characters)

def Header.read (characters : List Char) : Except YamlError (Header × List Char) := do
  if characters.head?.any fun character => (chomping? character).isSome then
    let (chomping, rest) := readChomping characters
    let (indentation, rest) ← readIndentation rest
    return (⟨chomping, indentation⟩, rest)
  else
    let (indentation, rest) ← readIndentation characters
    if indentation.isSome then
      let (chomping, rest) := readChomping rest
      return (⟨chomping, indentation⟩, rest)
    else
      return (⟨.clip, none⟩, rest)

/-- Reads empty lines and the indentation of the line behind them, of at most the given width; gives
the line breaks, the deepest indentation met and the place behind it. -/
def readBreaks (indentation : Option Nat) (breaks : List Char) (deepest line column : Nat) :
    List Char → Except YamlError (List Char × Nat × Cursor)
  | [] => .ok (breaks, deepest, ⟨[], line, column⟩)
  | character :: rest =>
      if isBreak character then
        readBreaks indentation (breaks ++ [character]) deepest (line + 1) 0 rest
      else if isSpacing character && indentation.all (column < ·) then
        if character == '\t' then
          .error .tabIndentation
        else
          readBreaks indentation breaks (max deepest (column + 1)) line (column + 1) rest
      else
        .ok (breaks, deepest, ⟨character :: rest, line, column⟩)

structure Lines where
  text : List Char
  lastBreak : List Char
  emptyLines : List Char
  lastIsSpaced : Bool

/-- The text with the breaks before the next line. A single break between two lines that both
start with a word is folded if asked for. -/
def Lines.joined (lines : Lines) (folds nextIsSpaced : Bool) : List Char :=
  let separator :=
    if folds && lines.lastBreak == ['\n'] && !lines.lastIsSpaced && !nextIsSpaced then
      if lines.emptyLines.isEmpty then [' '] else []
    else
      lines.lastBreak
  lines.text ++ separator ++ lines.emptyLines

def readLines (folds : Bool) (indentation : Nat) :
    Nat → Lines → Cursor → Except YamlError (Lines × Cursor)
  | 0, lines, cursor => .ok (lines, cursor)
  | fuel + 1, lines, cursor => do
      if cursor.column != indentation || cursor.rest.isEmpty then
        return (lines, cursor)
      let isSpaced := cursor.head?.any isSpacing
      let content := cursor.rest.takeWhile fun character => !isBreak character
      let behind := cursor.advance content.length
      let next := behind.skipBreak
      let (emptyLines, _, cursor) ←
        readBreaks (some indentation) [] 0 next.line next.column next.rest
      let text := lines.joined folds isSpaced ++ content
      readLines folds indentation fuel
        ⟨text, (behind.rest.take 1), emptyLines, isSpaced⟩ cursor

def Lines.chomped (lines : Lines) : Chomping → List Char
  | .strip => lines.text
  | .clip => lines.text ++ lines.lastBreak
  | .keep => lines.text ++ lines.lastBreak ++ lines.emptyLines

def read (folds : Bool) (outer : Option Nat) (cursor : Cursor) :
    Except YamlError (List Char × Cursor) := do
  let (header, remaining) ← Header.read cursor.rest
  let cursor := (cursor.moveTo remaining).skipComment
  if cursor.head?.any fun character => !isBreak character then
    throw .invalidBlockHeader
  let cursor := cursor.skipBreak
  let fixed := header.indentation.map (outer.getD 0 + ·)
  let (emptyLines, deepest, cursor) ←
    readBreaks fixed [] cursor.column cursor.line cursor.column cursor.rest
  let indentation := fixed.getD (max deepest (max (outer.elim 0 (· + 1)) 1))
  let (lines, cursor) ←
    readLines folds indentation (cursor.rest.length + 1) ⟨[], [], emptyLines, false⟩ cursor
  return (lines.chomped header.chomping, cursor)

end Block
end Yaml
end CodeAudit
