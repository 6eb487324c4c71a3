import CodeAudit.Clone.Search
import CodeAudit.Finding.Basic

/-!
Groups of duplicates: the locations that share their content, and when one group says no more
than another.
-/

namespace CodeAudit

structure Location where
  path : String
  startLine : Nat
  endLine : Nat
deriving DecidableEq, Repr

namespace Location

def contains (location other : Location) : Bool :=
  location.path == other.path && location.startLine ≤ other.startLine &&
    other.endLine ≤ location.endLine

def text (location : Location) : String :=
  location.path ++ ":" ++ toString location.startLine ++ "-" ++ toString location.endLine

def compare (left right : Location) : Ordering :=
  (Ord.compare left.path right.path).then
    ((Ord.compare left.startLine right.startLine).then (Ord.compare left.endLine right.endLine))

end Location

inductive Granularity where
  | wholeUnit
  | subBlock
deriving DecidableEq, Repr

namespace Granularity

def name : Granularity → String
  | wholeUnit => "WholeUnit"
  | subBlock => "SubBlock"

def rank : Granularity → Nat
  | wholeUnit => 0
  | subBlock => 1

end Granularity

structure DuplicateGroup where
  granularity : Granularity
  fingerprint : Fingerprint
  /-- The statements of each copy, absent for whole units. -/
  statements : Option Nat
  locations : List Location
deriving DecidableEq

namespace DuplicateGroup

def ruleId : String := "duplicate-code"
def category : String := "Duplication"
def description : String := "Identical units or repeated statement runs"

def groupId (group : DuplicateGroup) : String :=
  group.fingerprint.short

def message (group : DuplicateGroup) : String :=
  let places := toString group.locations.length ++ " locations: " ++
    ", ".intercalate (group.locations.map Location.text)
  match group.granularity, group.statements with
  | .subBlock, some count =>
      "duplicated block of " ++ toString count ++ " statements found in " ++ places
  | _, _ => "identical file content found in " ++ places

def finding (group : DuplicateGroup) : Finding :=
  let path := (group.locations.head?.map fun location => location.path).getD ""
  let line := (group.locations.head?.map fun location => location.startLine).getD 1
  ((((Finding.make path ruleId group.message line .warning category).withProperty
    "fingerprint" group.fingerprint.hex).withProperty
    "group_id" group.groupId).withProperty
    "granularity" group.granularity.name).withProperty
    "locations" (toString group.locations.length)

def coveredLines (group : DuplicateGroup) : Nat :=
  group.locations.foldr (fun location total =>
    (location.endLine + 1 - location.startLine) + total) 0

def removeFirst? {α : Type} (accepts : α → Bool) : List α → Option (List α)
  | [] => none
  | element :: rest =>
      if accepts element then some rest
      else (removeFirst? accepts rest).map (element :: ·)

/-- Gives each inner location the first outer one that contains it and is not yet given away. -/
def assignable : List Location → List Location → Bool
  | [], _ => true
  | inner :: rest, outer =>
      match removeFirst? (fun location => location.contains inner) outer with
      | none => false
      | some remaining => assignable rest remaining

def nestedIn (group outer : DuplicateGroup) : Bool :=
  group.locations.length ≤ outer.locations.length && assignable group.locations outer.locations

def firstPath (group : DuplicateGroup) : String :=
  (group.locations.head?.map fun location => location.path).getD ""

def firstLine (group : DuplicateGroup) : Nat :=
  (group.locations.head?.map fun location => location.startLine).getD 0

def le (left right : DuplicateGroup) : Bool :=
  left.granularity.rank < right.granularity.rank ||
    (left.granularity.rank == right.granularity.rank &&
      (left.firstPath < right.firstPath ||
        (left.firstPath == right.firstPath && left.firstLine ≤ right.firstLine)))

/-- Order by covered lines, the most first, and then as groups are ordered. -/
def largerFirst (left right : DuplicateGroup) : Bool :=
  right.coveredLines < left.coveredLines ||
    (left.coveredLines == right.coveredLines && left.le right)

def keepUnlessNested (kept : List DuplicateGroup) (group : DuplicateGroup) : List DuplicateGroup :=
  if kept.any group.nestedIn then kept else kept ++ [group]

/-- Drops each group that is nested in a larger one. -/
def dropNested (groups : List DuplicateGroup) : List DuplicateGroup :=
  (groups.mergeSort largerFirst).foldl keepUnlessNested []

end DuplicateGroup
end CodeAudit
