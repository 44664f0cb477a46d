import StaffIndex.Plan
import StaffIndex.Sorted.Map
import StaffIndex.Sorted.Set

/-!
# Ranking

Every matched row adds its score to the weight of each id in it, once however often the row has the id. The heaviest ids
come first, and of two ids of equal weight the smaller one.

Scores are floating-point numbers, so a weight can be infinite or undefined. Weights are compared by the total order on
their bit patterns, which puts an undefined weight above all others if an undefined score caused it, and below all
others if infinite scores of both signs did.
-/

namespace StaffIndex.Search

/-- A sum of scores. -/
structure Weight where
  sum : Float
  /-- Infinities of both signs have met in the sum, and no undefined score before them. -/
  cancelled : Bool

namespace Weight

def zero : Weight := ⟨0.0, false⟩

def add (w : Weight) (score : Float) : Weight where
  sum := w.sum + score
  cancelled := w.cancelled || ((w.sum + score).isNaN && !w.sum.isNaN && !score.isNaN)

/-- A number that grows with the weight. The bit patterns of non-negative numbers are ordered as the numbers, those of
negative ones the other way round. -/
def rank (w : Weight) : Int :=
  let bits := w.sum.toBits.toNat
  if w.cancelled then -0x10000000000000000
  else if bits < 0x8000000000000000 then bits
  else 0x7FFFFFFFFFFFFFFF - bits

end Weight

/-- The weight of every id that occurs in a row. -/
def weights (rows : List ScoredRow) : SortedMap Weight :=
  rows.foldl (fun ws row =>
    (SortedSet.ofList row.ids).toList.foldl (fun ws id => ws.alter id fun w => some ((w.getD .zero).add row.score)) ws)
    .empty

/-- Does the first candidate come before the second, or are they the same? -/
def precedes (a b : EmployeeId × Weight) : Bool :=
  b.2.rank < a.2.rank || (a.2.rank == b.2.rank && (compare a.1 b.1).isLE)

/-- The `limit` heaviest ids, heaviest first. -/
def rank (rows : List ScoredRow) (limit : Nat) : List EmployeeId :=
  (((weights rows).entries.mergeSort precedes).take limit).map (·.1)

end StaffIndex.Search
