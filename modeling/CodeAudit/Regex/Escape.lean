import CodeAudit.Regex.Flags
import CodeAudit.Unicode.Age
import CodeAudit.Unicode.Break
import CodeAudit.Unicode.Script

/-!
Escapes of regular expressions: what follows a backslash. A function that reads returns its value
with what is left of the text.
-/

namespace CodeAudit
namespace Regex

open Unicode

/-! ## Counts and code points -/

def isHex (character : Char) : Bool :=
  character.isDigit || ('a' ≤ character && character ≤ 'f') ||
    ('A' ≤ character && character ≤ 'F')

def charOfCode (code : Nat) : Except RegexError Char :=
  if code.isValidChar then .ok (Char.ofNat code) else .error .badEscape

def digitsOf (flags : Flags) : Nat → List Char → List Char → List Char × List Char
  | 0, digits, text => (digits, text)
  | fuel + 1, digits, text =>
      match text with
      | character :: _ =>
          if character.isDigit then digitsOf flags fuel (digits ++ [character]) (flags.next text)
          else (digits, text)
      | [] => (digits, [])

/-- A decimal count of at most 32 bits, or nothing when there are no digits. -/
def readCount (flags : Flags) (text : List Char) : Except RegexError (Option Nat × List Char) :=
  let text := text.dropWhile Text.isBlank
  let (digits, text) := digitsOf flags (text.length + 1) [] text
  let text := text.dropWhile Text.isBlank
  let text := flags.skip text
  if digits.isEmpty then
    .ok (none, text)
  else
    let value := digits.foldl (fun value digit => value * 10 + (digit.toNat - 48)) 0
    if value < 0x100000000 then .ok (some value, text) else .error .badRepetition

def readHexDigits (flags : Flags) :
    Nat → List Char → List Char → Except RegexError (Char × List Char)
  | 0, digits, text => do
      let character ← charOfCode (readHex digits)
      return (character, text)
  | count + 1, digits, text =>
      match text with
      | digit :: _ =>
          if isHex digit then readHexDigits flags count (digits ++ [digit]) (flags.next text)
          else .error .badEscape
      | [] => .error .badEscape

def readBraced (flags : Flags) :
    Nat → List Char → List Char → Except RegexError (List Char × List Char)
  | 0, _, _ => .error .badEscape
  | fuel + 1, held, text =>
      match text with
      | [] => .error .badEscape
      | '\x7d' :: rest => .ok (held, rest)
      | character :: _ => readBraced flags fuel (held ++ [character]) (flags.next text)

/-- A code point after `x`, `u` or `U`, in braces or with a fixed number of digits. The two digits
after `x` name a byte when Unicode is off. -/
def readCode (flags : Flags) (letter : Char) (text : List Char) :
    Except RegexError (Char × List Char) :=
  match text with
  | '\x7b' :: _ => do
      let inner := flags.next text
      let (digits, rest) ← readBraced flags (inner.length + 1) [] inner
      if digits.isEmpty || !digits.all isHex then
        throw .badEscape
      let character ← charOfCode (readHex digits)
      return (character, flags.skip rest)
  | _ => do
      let count := if letter == 'x' then 2 else if letter == 'u' then 4 else 8
      let (character, rest) ← readHexDigits flags count [] text
      if letter == 'x' && !flags.unicode && character.toNat ≥ 0x80 then
        throw .notText
      return (character, rest)

/-! ## Named sets -/

/-- Lower case without spaces, hyphens, underscores and a leading `is`. -/
def plainName (name : List Char) : String :=
  let lowered := name.map Char.toLower
  let (stripped, body) :=
    match lowered with
    | 'i' :: 's' :: rest => (true, rest)
    | _ => (false, lowered)
  let kept := body.filter fun character =>
    character.toNat < 0x80 && character != ' ' && character != '_' && character != '-'
  if stripped && kept == ['c'] then "isc" else String.ofList kept

def orUnknown : Option CodeSet → Except RegexError CodeSet
  | some set => .ok set
  | none => .error .unknownProperty

/-- A property, a general category or a script, tried in this order. -/
def setNamed (name : List Char) : Except RegexError CodeSet :=
  let plain := plainName name
  let asProperty := if ["cf", "sc", "lc"].contains plain then none else propertyNamed? plain
  orUnknown (asProperty.orElse fun _ =>
    (categoryNamed? plain).orElse fun _ => scriptNamed? plain)

def setValued (property value : List Char) : Except RegexError CodeSet :=
  let value := plainName value
  orUnknown <|
    match plainName property with
    | "gc" | "generalcategory" => categoryNamed? value
    | "sc" | "script" => scriptNamed? value
    | "scx" | "scriptextensions" => scriptExtensionsNamed? value
    | "age" => ageNamed? value
    | "gcb" | "graphemeclusterbreak" => graphemeBreakNamed? value
    | "wb" | "wordbreak" => wordBreakNamed? value
    | "sb" | "sentencebreak" => sentenceBreakNamed? value
    | _ => none

def cutAt? (mark : List Char) : List Char → Option (List Char × List Char)
  | [] => none
  | character :: rest =>
      if mark.isPrefixOf (character :: rest) then
        some ([], (character :: rest).drop mark.length)
      else
        (cutAt? mark rest).map fun (before, after) => (character :: before, after)

def setQueried (query : List Char) (negated : Bool) : Except RegexError (CodeSet × Bool) := do
  match cutAt? ['!', '='] query with
  | some (property, value) => return (← setValued property value, !negated)
  | none =>
      match (cutAt? [':'] query).orElse fun _ => cutAt? ['='] query with
      | some (property, value) => return (← setValued property value, negated)
      | none => return (← setNamed query, negated)

def readProperty (flags : Flags) (negated : Bool) (text : List Char) :
    Except RegexError (CodeSet × List Char) := do
  let ((set, negated), rest) ←
    match text with
    | [] => throw .badEscape
    | '\\' :: _ => throw .unknownProperty
    | '\x7b' :: _ =>
        let inner := flags.next text
        let (query, rest) ← readBraced flags (inner.length + 1) [] inner
        pure (← setQueried query negated, rest)
    | letter :: _ => pure ((← setNamed [letter], negated), flags.next text)
  if !flags.unicode then
    throw .notText
  return (← flags.finish negated set, rest)

def asciiNamed? (name : String) : Option CodeSet :=
  match name with
  | "alnum" => some ⟨[(0x30, 0x39), (0x41, 0x5A), (0x61, 0x7A)]⟩
  | "alpha" => some ⟨[(0x41, 0x5A), (0x61, 0x7A)]⟩
  | "ascii" => some ⟨[(0, 0x7F)]⟩
  | "blank" => some ⟨[(0x09, 0x09), (0x20, 0x20)]⟩
  | "cntrl" => some ⟨[(0, 0x1F), (0x7F, 0x7F)]⟩
  | "digit" => some ⟨[(0x30, 0x39)]⟩
  | "graph" => some ⟨[(0x21, 0x7E)]⟩
  | "lower" => some ⟨[(0x61, 0x7A)]⟩
  | "print" => some ⟨[(0x20, 0x7E)]⟩
  | "punct" => some ⟨[(0x21, 0x2F), (0x3A, 0x40), (0x5B, 0x60), (0x7B, 0x7E)]⟩
  | "space" => some ⟨[(0x09, 0x0D), (0x20, 0x20)]⟩
  | "upper" => some ⟨[(0x41, 0x5A)]⟩
  | "word" => some Look.asciiWordCharacters
  | "xdigit" => some ⟨[(0x30, 0x39), (0x41, 0x46), (0x61, 0x66)]⟩
  | _ => none

def shorthand (flags : Flags) (letter : Char) : CodeSet :=
  match letter with
  | 'd' => if flags.unicode then digitCharacters else ⟨[(0x30, 0x39)]⟩
  | 's' => if flags.unicode then spaceCharacters else ⟨[(0x09, 0x0D), (0x20, 0x20)]⟩
  | _ => if flags.unicode then wordCharacters else Look.asciiWordCharacters

/-! ## Escapes -/

inductive Atom where
  | literal (character : Char)
  | set (members : CodeSet)
  | look (assertion : Look)

def isMeta (character : Char) : Bool :=
  "\\.+*?()|[]\x7b\x7d^$#&-~".toList.contains character

def isEscapable (character : Char) : Bool :=
  isMeta character || (character.toNat < 0x80 && !character.isAlphanum &&
    character != '<' && character != '>')

def isBoundaryLetter (character : Char) : Bool :=
  character.isAlpha || character == '-'

def boundaryName (flags : Flags) : Nat → List Char → List Char → List Char × List Char
  | 0, held, text => (held, text)
  | fuel + 1, held, text =>
      match text with
      | character :: _ =>
          if isBoundaryLetter character then
            boundaryName flags fuel (held ++ [character]) (flags.next text)
          else
            (held, text)
      | [] => (held, [])

def readBoundary (flags : Flags) (text : List Char) : Except RegexError (Look × List Char) :=
  match text with
  | '\x7b' :: _ =>
      let inner := flags.next text
      match inner with
      | [] => .error .badEscape
      | character :: _ =>
          if !isBoundaryLetter character then
            .ok (.boundary flags.unicode, text)
          else
            match boundaryName flags (inner.length + 1) [] inner with
            | (name, '\x7d' :: rest) =>
                match String.ofList name with
                | "start" => .ok (.wordStart flags.unicode, rest)
                | "end" => .ok (.wordEnd flags.unicode, rest)
                | "start-half" => .ok (.wordStartHalf flags.unicode, rest)
                | "end-half" => .ok (.wordEndHalf flags.unicode, rest)
                | _ => .error .badEscape
            | _ => .error .badEscape
  | _ => .ok (.boundary flags.unicode, text)

def readEscape (flags : Flags) (text : List Char) : Except RegexError (Atom × List Char) :=
  match text with
  | [] => .error .badEscape
  | letter :: rest =>
      if letter.isDigit then
        .error .backReference
      else if ['x', 'u', 'U'].contains letter then do
        let (character, rest) ← readCode flags letter (flags.next text)
        return (.literal character, rest)
      else if letter == 'p' || letter == 'P' then do
        let (set, rest) ← readProperty flags (letter == 'P') (flags.next text)
        return (.set set, rest)
      else if ['d', 's', 'w'].contains letter then
        .ok (.set (shorthand flags letter), rest)
      else if ['D', 'S', 'W'].contains letter then
        if flags.unicode then .ok (.set (shorthand flags letter.toLower).complement, rest)
        else .error .notText
      else if isEscapable letter then
        .ok (.literal letter, rest)
      else
        match letter with
        | 'a' => .ok (.literal '\x07', rest)
        | 'f' => .ok (.literal '\x0c', rest)
        | 't' => .ok (.literal '\t', rest)
        | 'n' => .ok (.literal '\n', rest)
        | 'r' => .ok (.literal '\r', rest)
        | 'v' => .ok (.literal '\x0b', rest)
        | 'A' => .ok (.look .textStart, rest)
        | 'z' => .ok (.look .textEnd, rest)
        | 'b' => do
            let (assertion, rest) ← readBoundary flags rest
            return (.look assertion, rest)
        | 'B' => .ok (.look (.noBoundary flags.unicode), rest)
        | '<' => .ok (.look (.wordStart flags.unicode), rest)
        | '>' => .ok (.look (.wordEnd flags.unicode), rest)
        | _ => .error .badEscape

end Regex
end CodeAudit
