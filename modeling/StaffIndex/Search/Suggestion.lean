import StaffIndex.Index
import StaffIndex.Sorted.Set

/-!
# Suggestions

An id is suggested if it occurs in a row that starts with the last word of the query and in the row of every word
before. The smallest ids are shown.
-/

namespace StaffIndex.Search

/-- The ids that occur in one of the rows. -/
def occurring (rows : List Row) : SortedSet EmployeeId := .ofList (rows.flatMap (·.ids))

/-- The `cap` smallest ids that occur in one of the rows and in each of the lists. -/
def suggestions (exact : List (List EmployeeId)) (prefixed : List Row) (cap : Nat) : List EmployeeId :=
  ((occurring prefixed).filter fun id => exact.all (·.contains id)).toList.take cap

end StaffIndex.Search
