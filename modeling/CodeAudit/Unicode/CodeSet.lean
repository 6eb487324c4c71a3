import CodeAudit.Text.Blank

/-!
Sets of code points, kept as ranges in increasing order that neither meet nor touch. A table of
the standard is written as hexadecimal ranges divided by blanks and read into a set when needed.
-/

namespace CodeAudit
namespace Unicode

def lastCode : Nat := 0x10FFFF

structure CodeSet where
  ranges : List (Nat × Nat)
deriving DecidableEq, Repr

namespace CodeSet

/-- Joins a range to ordered ranges that start no earlier. -/
def joinFront (low high : Nat) : List (Nat × Nat) → List (Nat × Nat)
  | [] => [(low, high)]
  | (nextLow, nextHigh) :: rest =>
      if nextLow ≤ high + 1 then
        joinFront low (max high nextHigh) rest
      else
        (low, high) :: (nextLow, nextHigh) :: rest

def ofRanges (ranges : List (Nat × Nat)) : CodeSet :=
  let ordered := ranges.mergeSort fun left right => left.1 ≤ right.1
  ⟨ordered.foldr (fun range joined => joinFront range.1 range.2 joined) []⟩

def empty : CodeSet := ⟨[]⟩

def full : CodeSet := ⟨[(0, lastCode)]⟩

def single (code : Nat) : CodeSet := ⟨[(code, code)]⟩

def ofChar (character : Char) : CodeSet := single character.toNat

def containsCode (set : CodeSet) (code : Nat) : Bool :=
  set.ranges.any fun range => range.1 ≤ code && code ≤ range.2

def contains (set : CodeSet) (character : Char) : Bool :=
  set.containsCode character.toNat

def union (left right : CodeSet) : CodeSet :=
  ofRanges (left.ranges ++ right.ranges)

def unions (sets : List CodeSet) : CodeSet :=
  ofRanges (sets.flatMap (·.ranges))

def gapsFrom (start : Nat) : List (Nat × Nat) → List (Nat × Nat)
  | [] => if start ≤ lastCode then [(start, lastCode)] else []
  | (low, high) :: rest =>
      if start < low then
        (start, low - 1) :: gapsFrom (high + 1) rest
      else
        gapsFrom (high + 1) rest

def complement (set : CodeSet) : CodeSet :=
  ⟨gapsFrom 0 set.ranges⟩

def intersection (left right : CodeSet) : CodeSet :=
  (left.complement.union right.complement).complement

def difference (left right : CodeSet) : CodeSet :=
  left.intersection right.complement

def symmetricDifference (left right : CodeSet) : CodeSet :=
  (left.difference right).union (right.difference left)

def isAscii (set : CodeSet) : Bool :=
  set.ranges.all fun range => range.2 < 0x80

end CodeSet

def hexValue (digit : Char) : Nat :=
  if digit.isDigit then digit.toNat - 48
  else if 'a' ≤ digit && digit ≤ 'f' then digit.toNat - 87
  else digit.toNat - 55

def readHex (digits : List Char) : Nat :=
  digits.foldl (fun value digit => value * 16 + hexValue digit) 0

def readRange (text : List Char) : Nat × Nat :=
  match text.splitOnP (· == '-') with
  | [low, high] => (readHex low, readHex high)
  | _ => (readHex text, readHex text)

def readSet (text : String) : CodeSet :=
  ⟨(Text.words text.toList).map readRange⟩

/-- A set of the standard under the names that select it, with its ranges still in text. -/
structure NamedSet where
  names : List String
  ranges : String

def NamedSet.find? (table : List NamedSet) (name : String) : Option CodeSet :=
  (table.find? fun entry => entry.names.contains name).map fun entry => readSet entry.ranges

end Unicode
end CodeAudit
