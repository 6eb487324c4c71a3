import CodeAudit.Unicode.CodeSet
import CodeAudit.Unicode.Property

/-!
Regular expressions over characters, with assertions about the characters on either side of a
position. Alternatives and repetitions are ordered: what stands first is preferred.
-/

namespace CodeAudit

open Unicode

inductive Look where
  | textStart
  | textEnd
  | lineStart
  | lineEnd
  | feedLineStart
  | feedLineEnd
  | boundary (unicode : Bool)
  | noBoundary (unicode : Bool)
  | wordStart (unicode : Bool)
  | wordEnd (unicode : Bool)
  | wordStartHalf (unicode : Bool)
  | wordEndHalf (unicode : Bool)
deriving DecidableEq, Repr

namespace Look

def asciiWordCharacters : CodeSet :=
  ⟨[(0x30, 0x39), (0x41, 0x5A), (0x5F, 0x5F), (0x61, 0x7A)]⟩

def isWord (unicode : Bool) (character : Option Char) : Bool :=
  character.any fun given =>
    if unicode then wordCharacters.contains given else asciiWordCharacters.contains given

/-- Whether the assertion holds between two characters; a text has none before its start and
after its end. -/
def holds (look : Look) (before after : Option Char) : Bool :=
  match look with
  | textStart => before.isNone
  | textEnd => after.isNone
  | lineStart => before.isNone || before == some '\n'
  | lineEnd => after.isNone || after == some '\n'
  | feedLineStart =>
      before.isNone || before == some '\n' || (before == some '\r' && after != some '\n')
  | feedLineEnd =>
      after.isNone || after == some '\r' || (after == some '\n' && before != some '\r')
  | boundary unicode => isWord unicode before != isWord unicode after
  | noBoundary unicode => isWord unicode before == isWord unicode after
  | wordStart unicode => !isWord unicode before && isWord unicode after
  | wordEnd unicode => isWord unicode before && !isWord unicode after
  | wordStartHalf unicode => !isWord unicode before
  | wordEndHalf unicode => !isWord unicode after

end Look

inductive Regex where
  | empty
  | oneOf (set : CodeSet)
  | look (assertion : Look)
  | seq (first second : Regex)
  | either (preferred other : Regex)
  | iterate (least : Nat) (most : Option Nat) (greedy : Bool) (body : Regex)
deriving Repr

namespace Regex

def seqAll (parts : List Regex) : Regex :=
  parts.foldr (fun part rest => match rest with
    | .empty => part
    | _ => .seq part rest) .empty

def matchesEmpty : Regex → Bool
  | empty => true
  | oneOf _ => false
  | look _ => true
  | seq first second => first.matchesEmpty && second.matchesEmpty
  | either preferred other => preferred.matchesEmpty || other.matchesEmpty
  | iterate least _ _ body => least == 0 || body.matchesEmpty

/-- Cuts a range of characters that have a number of bytes after their first one, so that in each
part the bytes vary on their own. The parts are in order and give, for each byte, its range. -/
def byteRanges : Nat → Nat → Nat → List (List (Nat × Nat))
  | 0, low, high => [[(low, high)]]
  | more + 1, low, high =>
      let block := 64 ^ (more + 1)
      let under (byte low high : Nat) := (byteRanges more low high).map ((byte, byte) :: ·)
      let first := low / block
      let last := high / block
      if first == last then
        under first (low % block) (high % block)
      else
        let head := if low % block == 0 then [] else under first (low % block) (block - 1)
        let tail := if high % block == block - 1 then [] else under last 0 (high % block)
        let begins := if head.isEmpty then first else first + 1
        let ends := if tail.isEmpty then last else last - 1
        let whole := (begins, ends) :: List.replicate (more + 1) (0, 63)
        head ++ (if begins ≤ ends then [whole] else []) ++ tail

def nodeCount : List (Nat × Nat) → List (List (Nat × Nat)) → Nat
  | _, [] => 0
  | previous, part :: parts =>
      let shared := ((previous.zip part).takeWhile fun (left, right) => left == right).length
      part.length - shared + nodeCount part parts

def lengthClasses : List (Nat × Nat × Nat) :=
  [(0, 0, 0x7F), (1, 0x80, 0x7FF), (2, 0x800, 0xD7FF), (2, 0xE000, 0xFFFF), (3, 0x10000, lastCode)]

/-- The memory for a set of characters, of which one that goes beyond ASCII takes the most in an
automaton that reads their bytes from the last to the first. -/
def setCost (set : CodeSet) : Nat :=
  match set.ranges with
  | [(low, high)] =>
      if low == high then 32 * (Char.ofNat low).utf8Size
      else if high < 0x80 then 32
      else wideCost [(low, high)]
  | ranges => if set.isAscii then 32 + 8 * ranges.length else wideCost ranges
where
  wideCost (ranges : List (Nat × Nat)) : Nat :=
    let parts := lengthClasses.map fun (more, least, most) =>
      (ranges.filter fun (low, high) => low ≤ most && least ≤ high).flatMap fun (low, high) =>
        byteRanges more (max low least) (min high most)
    parts.foldl (fun total part => total + 32 * nodeCount [] part + 4 * part.length) 64

/-- An estimate of the memory, in bytes, of an automaton for the expression. It counts states and
transitions, with counted repetitions unrolled, and leaves out the marks of groups. -/
def cost : Regex → Nat
  | empty => 32
  | oneOf set => setCost set
  | look _ => 32
  | seq first second => first.cost + second.cost
  | either preferred other => preferred.cost + other.cost + 48
  | iterate least most _ body =>
      match most with
      | some bound => bound * body.cost + (bound - least) * 48
      | none => max 1 least * body.cost + 48

def costLimit : Nat := 10 * 1024 * 1024

end Regex
end CodeAudit
