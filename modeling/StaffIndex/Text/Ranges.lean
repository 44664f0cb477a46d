/-!
# Classes of characters

A class of characters is a list of closed ranges of code points, and membership is tested on the code point.
-/

namespace StaffIndex.Text

/-- Does one of the closed ranges hold `n`? -/
def inRanges (ranges : List (Nat × Nat)) (n : Nat) : Bool :=
  ranges.any fun r => r.1 ≤ n && n ≤ r.2

theorem inRanges_iff {ranges : List (Nat × Nat)} {n : Nat} :
    inRanges ranges n = true ↔ ∃ r ∈ ranges, r.1 ≤ n ∧ n ≤ r.2 := by
  simp [inRanges]

end StaffIndex.Text
