/-!
Globs: patterns for whole paths. A star stands for any characters, slashes included, and two stars
that fill the space between slashes stand for any directories.
-/

namespace CodeAudit
namespace Glob

inductive Part where
  | literal (character : Char)
  | anyByte
  | anyBytes
  | bytesIn (negated : Bool) (ranges : List (Char × Char))
  /-- Two stars and a slash at the start. -/
  | leadingDirectories
  /-- A slash and two stars at the end. -/
  | trailingPath
  /-- Two stars between slashes. -/
  | innerDirectories
  | oneOf (branches : List (List Part))

inductive GlobError where
  | unclosedClass
  | invalidRange (low high : Char)
  | unclosedGroup
  | unopenedGroup
  | danglingEscape
deriving DecidableEq, Repr

def GlobError.message : GlobError → String
  | unclosedClass => "unclosed character class; missing ']'"
  | invalidRange low high =>
      "invalid range; '" ++ low.toString ++ "' > '" ++ high.toString ++ "'"
  | unclosedGroup =>
      "unclosed alternate group; missing '\x7d' (maybe escape '\x7b' with '[\x7b]'?)"
  | unopenedGroup =>
      "unopened alternate group; missing '\x7b' (maybe escape '\x7d' with '[\x7d]'?)"
  | danglingEscape => "dangling '\\'"

/-- A group of branches under construction, each list with the newest first. -/
structure Group where
  branches : List (List Part)
  parts : List Part

namespace Group

def start : Group := ⟨[], []⟩

def push (group : Group) (part : Part) : Group :=
  { group with parts := part :: group.parts }

def nextBranch (group : Group) : Group :=
  ⟨group.parts.reverse :: group.branches, []⟩

def finish (group : Group) : List (List Part) :=
  group.nextBranch.branches.reverse

end Group

/-- The innermost open group, the groups around it, and the character read last. -/
structure Reader where
  group : Group
  outer : List Group
  previous : Option Char

namespace Reader

def start : Reader := ⟨.start, [], none⟩

def push (reader : Reader) (part : Part) : Reader :=
  { reader with group := reader.group.push part }

def inGroup (reader : Reader) : Bool :=
  !reader.outer.isEmpty

def openGroup (reader : Reader) : Reader :=
  { reader with group := .start, outer := reader.group :: reader.outer }

def closeGroup (reader : Reader) : Except GlobError Reader :=
  match reader.outer with
  | [] => .error .unopenedGroup
  | outer :: rest =>
      .ok { reader with group := outer.push (.oneOf reader.group.finish), outer := rest }

def comma (reader : Reader) : Reader :=
  if reader.inGroup then { reader with group := reader.group.nextBranch }
  else reader.push (.literal ',')

/-- Lets directories take the place of the slash before two stars, which are one with the
directories that a pattern starts with. -/
def replaceSlash (reader : Reader) (part : Part) : Reader :=
  match reader.group.parts with
  | .leadingDirectories :: _ => reader
  | .trailingPath :: _ => reader
  | _ :: parts => { reader with group := { reader.group with parts := part :: parts } }
  | [] => reader.push part

/-- Reads two stars in front of the given rest; the last character before them is the one read
last. -/
def twoStars (reader : Reader) (rest : List Char) : Reader × List Char :=
  let asStars := ((reader.push .anyBytes).push .anyBytes, rest)
  let followsSlash := reader.previous == some '/' ||
    (reader.inGroup && (reader.previous == some ',' || reader.previous == some '{'))
  match reader.group.parts, rest with
  | [], [] => (reader.push .leadingDirectories, [])
  | [], '/' :: rest => (reader.push .leadingDirectories, rest)
  | [], _ => asStars
  | _ :: _, [] => if followsSlash then (reader.replaceSlash .trailingPath, []) else asStars
  | _ :: _, next :: behind =>
      if !followsSlash then
        asStars
      else if next == '/' then
        (reader.replaceSlash .innerDirectories, behind)
      else if reader.inGroup && (next == ',' || next == '}') then
        (reader.replaceSlash .trailingPath, rest)
      else
        asStars

end Reader

/-- A class under construction: its ranges, newest first, and whether a hyphen waits for the end of
the newest one. -/
structure ClassReader where
  ranges : List (Char × Char)
  inRange : Bool

namespace ClassReader

def add (reader : ClassReader) (character : Char) : Except GlobError ClassReader :=
  match reader.inRange, reader.ranges with
  | true, (low, _) :: ranges =>
      if character < low then .error (.invalidRange low character)
      else .ok ⟨(low, character) :: ranges, false⟩
  | _, ranges => .ok ⟨(character, character) :: ranges, false⟩

def finish (reader : ClassReader) : List (Char × Char) :=
  (if reader.inRange then ('-', '-') :: reader.ranges else reader.ranges).reverse

/-- Reads a class up to its closing bracket, which cannot come first. -/
def read (reader : ClassReader) : List Char → Except GlobError (List (Char × Char) × List Char)
  | [] => .error .unclosedClass
  | character :: rest =>
      let isFirst := reader.ranges.isEmpty
      if character == ']' && !isFirst then
        .ok (reader.finish, rest)
      else if character == '-' && !isFirst && !reader.inRange then
        read { reader with inRange := true } rest
      else do
        read (← reader.add character) rest

end ClassReader

def readClass (characters : List Char) : Except GlobError (Part × List Char) := do
  let negated := characters.head? == some '!' || characters.head? == some '^'
  let (ranges, rest) ←
    ClassReader.read ⟨[], false⟩ (if negated then characters.drop 1 else characters)
  return (.bytesIn negated ranges, rest)

def Reader.step (reader : Reader) (character : Char) (rest : List Char) :
    Except GlobError (Reader × List Char) := do
  match character with
  | '?' => return (reader.push .anyByte, rest)
  | '*' =>
      match rest with
      | '*' :: rest => return reader.twoStars rest
      | _ => return (reader.push .anyBytes, rest)
  | '[' =>
      let (part, rest) ← readClass rest
      return (reader.push part, rest)
  | '{' => return (reader.openGroup, rest)
  | '}' => return (← reader.closeGroup, rest)
  | ',' => return (reader.comma, rest)
  | '\\' =>
      match rest with
      | [] => throw .danglingEscape
      | escaped :: rest => return (reader.push (.literal escaped), rest)
  | _ => return (reader.push (.literal character), rest)

def Reader.run : Nat → Reader → List Char → Except GlobError Reader
  | 0, reader, _ => .ok reader
  | _ + 1, reader, [] => .ok reader
  | fuel + 1, reader, character :: rest => do
      let (reader, remaining) ← reader.step character rest
      let consumed := (character :: rest).take (rest.length + 1 - remaining.length)
      run fuel { reader with previous := consumed.getLast? } remaining

end Glob

structure Glob where
  parts : List Glob.Part

namespace Glob

def ofText (text : String) : Except GlobError Glob := do
  let characters := text.toList
  let reader ← Reader.run characters.length .start characters
  if reader.inGroup then throw .unclosedGroup else return ⟨reader.group.parts.reverse⟩

end Glob
end CodeAudit
