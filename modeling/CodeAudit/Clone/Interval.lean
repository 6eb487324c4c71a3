/-!
Half-open intervals of positions, and the fewest intervals that cover the same positions.
-/

namespace CodeAudit
namespace Interval

def le (left right : Nat × Nat) : Bool :=
  left.1 < right.1 || (left.1 == right.1 && left.2 ≤ right.2)

/-- Extends an interval over the ordered intervals that overlap or touch it. -/
def absorb (start stop : Nat) : List (Nat × Nat) → List (Nat × Nat)
  | [] => [(start, stop)]
  | (nextStart, nextStop) :: rest =>
      if nextStart ≤ stop then
        absorb start (max stop nextStop) rest
      else
        (start, stop) :: absorb nextStart nextStop rest

def mergeOrdered : List (Nat × Nat) → List (Nat × Nat)
  | [] => []
  | (start, stop) :: rest => absorb start stop rest

/-- The union of intervals in any order, as intervals that neither overlap nor touch. -/
def merge (intervals : List (Nat × Nat)) : List (Nat × Nat) :=
  mergeOrdered (intervals.mergeSort le)

end Interval
end CodeAudit
