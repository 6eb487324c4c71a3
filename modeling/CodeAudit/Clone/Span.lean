import CodeAudit.Clone.Digest

/-!
Spans: runs of consecutive statements of one routine, named by position.
-/

namespace CodeAudit

structure Thresholds where
  unitLines : Nat := 5
  blockTokens : Nat := 50
  blockStatements : Nat := 2
deriving DecidableEq, Repr

/-- The statements from `start` up to `stop`, which is excluded. -/
structure Span where
  unit : Nat
  routine : Nat
  start : Nat
  stop : Nat
deriving DecidableEq, Repr

namespace Span

def length (span : Span) : Nat :=
  span.stop - span.start

def sameRoutine (left right : Span) : Bool :=
  left.unit == right.unit && left.routine == right.routine

def overlaps (left right : Span) : Bool :=
  left.sameRoutine right && left.start < right.stop && right.start < left.stop

def compare (left right : Span) : Ordering :=
  (Ord.compare left.unit right.unit).then ((Ord.compare left.routine right.routine).then
    ((Ord.compare left.start right.start).then (Ord.compare left.stop right.stop)))

def le (left right : Span) : Bool :=
  (left.compare right).isLE

end Span

def routineStatements (digests : List UnitDigest) (unit routine : Nat) : List StatementDigest :=
  match digests[unit]? with
  | none => []
  | some digest =>
      match digest.routines[routine]? with
      | none => []
      | some body => body.statements

def spanStatements (digests : List UnitDigest) (span : Span) : List StatementDigest :=
  ((routineStatements digests span.unit span.routine).drop span.start).take span.length

/-- The non-empty runs of a routine with `count` statements, by start and then by end. -/
def routineSpans (unit routine count : Nat) : List Span :=
  (List.range count).flatMap fun start =>
    (List.range (count - start)).map fun extra => ⟨unit, routine, start, start + extra + 1⟩

def allSpans (digests : List UnitDigest) : List Span :=
  (digests.zipIdx.map fun (digest, unit) =>
    (digest.routines.zipIdx.map fun (body, routine) =>
      routineSpans unit routine body.statements.length).flatten).flatten

def spanTokens (digests : List UnitDigest) (span : Span) : Nat :=
  (spanStatements digests span).foldr (fun statement total => statement.tokens + total) 0

def isLargeEnough (digests : List UnitDigest) (thresholds : Thresholds) (span : Span) : Bool :=
  max thresholds.blockStatements 1 ≤ span.length &&
    thresholds.blockTokens ≤ spanTokens digests span

abbrev RunHash := List UInt8 → Fingerprint

def spanFingerprint (hash : RunHash) (digests : List UnitDigest) (span : Span) : Fingerprint :=
  hash ((spanStatements digests span).flatMap fun statement => statement.hash.bytes)

def spanLines (digests : List UnitDigest) (span : Span) : Nat × Nat :=
  let statements := spanStatements digests span
  let first := (statements.head?.map fun statement => statement.startLine).getD 1
  (first, (statements.getLast?.map fun statement => statement.endLine).getD first)

end CodeAudit
