import CodeAudit.Clone.Interval
import CodeAudit.Clone.Span

/-!
The search for repeated runs of statements. Each large enough run is linked to the first run with
the same fingerprint. Links at the same distance between the same two routines are joined into
maximal spans, and for each such span all places are listed where its content occurs.
-/

namespace CodeAudit

structure Clone where
  fingerprint : Fingerprint
  first : Span
  repeats : List Span
deriving DecidableEq

def Clone.spans (clone : Clone) : List Span :=
  clone.first :: clone.repeats

/-- Two routines and the distance from a run in the first to its repeat in the second. -/
structure Diagonal where
  firstUnit : Nat
  firstRoutine : Nat
  otherUnit : Nat
  otherRoutine : Nat
  distance : Int
deriving DecidableEq, Repr

def Diagonal.between (first other : Span) : Diagonal :=
  ⟨first.unit, first.routine, other.unit, other.routine, (other.start : Int) - first.start⟩

structure Window where
  span : Span
  fingerprint : Fingerprint
deriving DecidableEq

/-- That a run on a diagonal repeats the statements of an interval. -/
structure Link where
  diagonal : Diagonal
  interval : Nat × Nat
deriving DecidableEq, Repr

namespace Clone

def windows (hash : RunHash) (digests : List UnitDigest) : List Window :=
  (allSpans digests).map fun span => ⟨span, spanFingerprint hash digests span⟩

/-- The link from a window to the first one with its fingerprint, if they do not overlap. -/
def link? (large : List Window) (here : Window) : Option Link :=
  (large.find? fun window => window.fingerprint == here.fingerprint).bind fun first =>
    if first.span.overlaps here.span then
      none
    else
      some ⟨Diagonal.between first.span here.span, (first.span.start, first.span.stop)⟩

def links (large : List Window) : List Link :=
  large.filterMap (link? large)

def diagonals (found : List Link) : List Diagonal :=
  (found.map fun link => link.diagonal).eraseDups

/-- The span of an interval on a diagonal. Where it would overlap its own repeat it is cut back to
the distance between the two. -/
def spanOn (diagonal : Diagonal) (interval : Nat × Nat) : Span :=
  let first : Span := ⟨diagonal.firstUnit, diagonal.firstRoutine, interval.1, interval.2⟩
  let other : Span :=
    ⟨diagonal.otherUnit, diagonal.otherRoutine, (interval.1 + diagonal.distance).toNat,
      (interval.2 + diagonal.distance).toNat⟩
  if first.overlaps other then
    { first with stop := first.start + diagonal.distance.natAbs }
  else
    first

def spansOn (found : List Link) (diagonal : Diagonal) : List Span :=
  (Interval.merge ((found.filter fun link => link.diagonal == diagonal).map fun link =>
    link.interval)).map (spanOn diagonal)

def ordered (spans : List Span) : List Span :=
  firstOfRuns id (spans.mergeSort Span.le)

def firsts (digests : List UnitDigest) (thresholds : Thresholds) (all : List Window) :
    List Span :=
  let large := all.filter fun window => isLargeEnough digests thresholds window.span
  let found := links large
  ordered (((diagonals found).flatMap (spansOn found)).filter (isLargeEnough digests thresholds))

/-- Keeps each span that does not overlap the one kept last. -/
def spread : Option Span → List Span → List Span
  | _, [] => []
  | last, span :: rest =>
      if last.any fun kept => kept.overlaps span then
        spread last rest
      else
        span :: spread (some span) rest

def occurrences (all : List Window) (wanted : List (Fingerprint × Nat))
    (fingerprint : Fingerprint) : List Span :=
  spread none ((all.filter fun window =>
    window.fingerprint == fingerprint && wanted.contains (fingerprint, window.span.length)).map
      fun window => window.span)

def ofSpans? (fingerprint : Fingerprint) : List Span → Option Clone
  | first :: second :: rest => some ⟨fingerprint, first, second :: rest⟩
  | _ => none

/-- All clones, one for each content of a maximal span. -/
def search (hash : RunHash) (digests : List UnitDigest) (thresholds : Thresholds) : List Clone :=
  let all := windows hash digests
  let found := firsts digests thresholds all
  let wanted := found.map fun span => (spanFingerprint hash digests span, span.length)
  (wanted.map Prod.fst).eraseDups.filterMap fun fingerprint =>
    ofSpans? fingerprint (occurrences all wanted fingerprint)

end Clone
end CodeAudit
