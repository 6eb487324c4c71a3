import CodeAudit.Regex.Class

/-!
Regular expressions read from their text: sequences, alternatives, groups and repetitions.
-/

namespace CodeAudit
namespace Regex

open Unicode

inductive Item where
  | part (regex : Regex) (depth : Nat)
  | flags

def Item.depth : Item → Nat
  | part _ depth => depth
  | flags => 0

def Item.regex : Item → Regex
  | part regex _ => regex
  | flags => .empty

/-- Depth of a node over members of which a single one takes no node. -/
def gatherDepth (depths : List Nat) : Nat :=
  let deepest := depths.foldl max 0
  if depths.length ≥ 2 then deepest + 1 else deepest

/-- What has been read of a group: its finished branches and the items of the last, newest
first. -/
structure PartialGroup where
  branches : List (Regex × Nat) := []
  items : List Item := []

def PartialGroup.branch (held : PartialGroup) : Regex × Nat :=
  (seqAll (held.items.reverse.map Item.regex), gatherDepth (held.items.map Item.depth))

def PartialGroup.push (held : PartialGroup) (item : Item) : PartialGroup :=
  { held with items := item :: held.items }

def PartialGroup.alternate (held : PartialGroup) : PartialGroup :=
  { branches := held.branch :: held.branches }

def PartialGroup.value (held : PartialGroup) : Regex × Nat :=
  let branches := held.branch :: held.branches
  let regex := (branches.tail.map Prod.fst).foldl (fun later earlier => .either earlier later)
    held.branch.1
  (regex, gatherDepth (branches.map Prod.snd))

def PartialGroup.repeatLast (held : PartialGroup) (wrap : Regex → Regex) :
    Except RegexError PartialGroup :=
  match held.items with
  | .part regex depth :: rest => .ok { held with items := .part (wrap regex) (depth + 1) :: rest }
  | _ => .error .nothingToRepeat

def readBounds (flags : Flags) (text : List Char) :
    Except RegexError ((Nat × Option Nat) × List Char) := do
  let (least, text) ← readCount flags (flags.skip text)
  match text with
  | ',' :: _ =>
      let text := flags.next text
      match text, least with
      | [], _ => throw .badRepetition
      | _, none => throw .badRepetition
      | '\x7d' :: rest, some least => return ((least, none), rest)
      | _, some least =>
          let (most, text) ← readCount flags text
          match most, text with
          | some most, '\x7d' :: rest =>
              if most < least then
                throw .badRepetition
              return ((least, some most), rest)
          | _, _ => throw .badRepetition
  | '\x7d' :: rest =>
      match least with
      | some count => return ((count, some count), rest)
      | none => throw .badRepetition
  | _ => throw .badRepetition

def isNameStart (character : Char) : Bool :=
  character == '_' || alphabeticCharacters.contains character

def isNamePart (character : Char) : Bool :=
  isNameStart character || numericCharacters.contains character ||
    character == '.' || character == '[' || character == ']'

def readName (text : List Char) : Except RegexError (String × List Char) :=
  let name := text.takeWhile (· != '>')
  match name, text.dropWhile (· != '>') with
  | first :: others, _ :: rest =>
      if isNameStart first && others.all isNamePart then .ok (String.ofList name, rest)
      else .error .badGroupName
  | _, _ => .error .badGroupName

def Flags.atom (flags : Flags) : Atom → Regex
  | .literal character =>
      if flags.ignoreCase && !flags.unicode && character.toNat ≥ 0x80 then
        .oneOf (CodeSet.ofChar character)
      else
        .oneOf (flags.close (CodeSet.ofChar character))
  | .set members => .oneOf members
  | .look assertion => .look assertion

/-- A single character's worth of expression that opens neither group nor class. -/
def readPrimitive (flags : Flags) (text : List Char) : Except RegexError (Regex × List Char) :=
  match text with
  | [] => .error .badEscape
  | '\\' :: rest => do
      let (atom, rest) ← readEscape flags rest
      return (flags.atom atom, rest)
  | '.' :: rest => do return (← flags.dot, rest)
  | '^' :: rest => .ok (.look flags.lineStart, rest)
  | '$' :: rest => .ok (.look flags.lineEnd, rest)
  | character :: rest => .ok (flags.atom (.literal character), rest)

def isLookAround (text : List Char) : Bool :=
  [['?', '='], ['?', '!'], ['?', '<', '='], ['?', '<', '!']].any (·.isPrefixOf text)

inductive Opening where
  | group (flags : Flags) (name : Option String)
  | setFlags (flags : Flags)

def readOpening (flags : Flags) (text : List Char) : Except RegexError (Opening × List Char) :=
  let text := flags.skip text
  if isLookAround text then
    .error .lookAround
  else
    match text with
    | '?' :: 'P' :: '<' :: rest | '?' :: '<' :: rest => do
        let (name, rest) ← readName rest
        return (.group flags (some name), rest)
    | '?' :: rest => do
        let ((inner, any), rest) ← readFlags flags [] false rest
        match rest with
        | ':' :: rest => return (.group inner none, rest)
        | _ =>
            if !any then
              throw .nothingToRepeat
            return (.setFlags inner, rest.drop 1)
    | _ => .ok (.group flags none, text)

structure Reading where
  regex : Regex
  depth : Nat
  names : List String

/-- Reads alternatives up to the end of the text or a closing parenthesis, which is left. -/
def readGroup :
    Nat → Flags → List String → PartialGroup → List Char → Except RegexError (Reading × List Char)
  | 0, _, _, _, _ => .error .unclosedGroup
  | fuel + 1, flags, names, held, text =>
      let text := flags.skip text
      let counted (least : Nat) (most : Option Nat) (rest : List Char) :
          Except RegexError (Reading × List Char) := do
        let lazyMark := rest.head? == some '?'
        let held ← held.repeatLast (.iterate least most (flags.greedy lazyMark))
        readGroup fuel flags names held (if lazyMark then rest.drop 1 else rest)
      match text with
      | [] | ')' :: _ =>
          let (regex, depth) := held.value
          .ok (⟨regex, depth, names⟩, text)
      | '(' :: rest => do
          let (opening, rest) ← readOpening flags rest
          match opening with
          | .setFlags inner => readGroup fuel inner names (held.push .flags) rest
          | .group inner name =>
              if name.any names.contains then
                throw .badGroupName
              let (body, rest) ← readGroup fuel inner (name.toList ++ names) {} rest
              match rest with
              | ')' :: rest =>
                  let part := Item.part body.regex (body.depth + 1)
                  readGroup fuel flags body.names (held.push part) rest
              | _ => throw .unclosedGroup
      | '|' :: rest => readGroup fuel flags names held.alternate rest
      | '[' :: rest => do
          let (negated, inner, rest) := openClass flags rest
          let ((set, depth), rest) ← readClass flags fuel negated inner rest
          readGroup fuel flags names (held.push (.part (.oneOf set) depth)) rest
      | '?' :: rest => counted 0 (some 1) rest
      | '*' :: rest => counted 0 none rest
      | '+' :: rest => counted 1 none rest
      | '\x7b' :: rest => do
          let ((least, most), rest) ← readBounds flags rest
          counted least most (flags.skip rest)
      | _ => do
          let (regex, rest) ← readPrimitive flags text
          readGroup fuel flags names (held.push (.part regex 0)) rest

/-- How deep groups, repetitions, sequences, alternatives and classes may be nested. -/
def depthLimit : Nat := 250

def ofText (text : String) : Except RegexError Regex := do
  let characters := text.toList
  let (reading, rest) ← readGroup (characters.length + 1) {} [] {} characters
  if !rest.isEmpty then
    throw .unopenedGroup
  if reading.depth > depthLimit then
    throw .tooDeep
  if reading.regex.cost > costLimit then
    throw .tooLarge
  return reading.regex

end Regex
end CodeAudit
