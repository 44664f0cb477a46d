import StaffIndex.Search.Engine
import StaffIndex.Stores

/-!
# What searches return

Without faults every search returns the summaries of the ids it has chosen and leaves the stores as they are.

- The exact search chooses the ids under the key of the query, each once (`run_exact`).
- The suggesting search chooses from the rows that start with the last token, and keeps what all the other tokens have
  (`run_suggest`). Giving up at a token without a row is only a shortcut.
- The ranked search chooses from the rows that resemble a token (`run_ranked`).
-/

namespace StaffIndex.Search

open Stores

variable {s : Stores}

/-! ## Exact search -/

theorem run_exact (s : Stores) (query : String) : s.run (exact query) =
    (.ok (s.staff.summaries (s.index.idsAt (Key.ofText query)).eraseDups), s) := by
  have hl : s.answer (.lookup (Key.ofText query)) = (s.index.find? (Key.ofText query), s) := rfl
  unfold exact
  rw [run_bind, run_request, hl]
  unfold Index.idsAt
  cases s.index.find? (Key.ofText query) <;> rfl

/-! ## Suggesting search -/

theorem run_lookupAll (s : Stores) (keys : List String) : s.run (lookupAll keys) =
    (.ok (if ∀ key ∈ keys, s.index.idsAt key ≠ [] then some (keys.map s.index.idsAt) else none), s) := by
  induction keys with
  | nil => rfl
  | cons key keys ih =>
    have hl : s.answer (.lookup key) = (s.index.find? key, s) := rfl
    rw [lookupAll, run_bind, run_request, hl, Index.find?_eq_occupied?]
    by_cases h : s.index.idsAt key = []
    · simp [Index.occupied?, h]
    · simp only [Index.occupied?, h, ↓reduceIte, run_bind, ih]
      by_cases hk : ∀ key ∈ keys, s.index.idsAt key ≠ [] <;> simp [h, hk]

/-- The ids that occur in one of the rows and in each of the lists. -/
def candidates (exact : List (List EmployeeId)) (rows : List Row) : SortedSet EmployeeId :=
  (occurring rows).filter fun id => exact.all (·.contains id)

theorem suggestions_eq_take (exact : List (List EmployeeId)) (rows : List Row) (cap : Nat) :
    suggestions exact rows cap = (candidates exact rows).toList.take cap := rfl

theorem mem_candidates {exact : List (List EmployeeId)} {rows : List Row} {id : EmployeeId} :
    id ∈ candidates exact rows ↔ (∃ row ∈ rows, id ∈ row.ids) ∧ ∀ ids ∈ exact, id ∈ ids := by
  rw [candidates, SortedSet.mem_filter, occurring, SortedSet.mem_ofList, List.mem_flatMap]
  simp

theorem mem_suggestions {exact : List (List EmployeeId)} {rows : List Row} {cap : Nat} {id : EmployeeId}
    (h : id ∈ suggestions exact rows cap) : (∃ row ∈ rows, id ∈ row.ids) ∧ ∀ ids ∈ exact, id ∈ ids :=
  mem_candidates.1 (List.mem_of_mem_take h)

/-- Nothing has an id in common with an empty list. -/
theorem suggestions_eq_nil {exact : List (List EmployeeId)} {prefixed : List Row} {cap : Nat} (h : [] ∈ exact) :
    suggestions exact prefixed cap = [] :=
  List.eq_nil_iff_forall_not_mem.2 fun _ hid => List.not_mem_nil ((mem_suggestions hid).2 [] h)

theorem run_suggest (s : Stores) (settings : Settings) (query : String) : s.run (suggest settings query) =
    (.ok (s.staff.summaries (suggestions ((Key.tokens query).dropLast.map s.index.idsAt)
      (prefixed s.index ((Key.tokens query).getLast?.getD "")) settings.suggestLimit)), s) := by
  unfold suggest
  simp only [run_bind, run_lookupAll]
  by_cases hk : ∀ key ∈ (Key.tokens query).dropLast, s.index.idsAt key ≠ []
  · rw [if_pos hk]; rfl
  · have hn : [] ∈ (Key.tokens query).dropLast.map s.index.idsAt := by
      rw [List.mem_map]
      simpa using hk
    rw [if_neg hk, suggestions_eq_nil hn]
    rfl

/-! ## Ranked search -/

theorem run_ranked (s : Stores) (settings : Settings) (query : String) {limit : Nat} (h : limit ≠ 0) :
    s.run (ranked settings query limit) = (.ok (s.staff.summaries
      (rank (similar s.index (Key.tokens query) settings.threshold) (min limit settings.maxLimit))), s) := by
  unfold ranked
  rw [if_neg h, run_bind]
  rfl

theorem mem_similar {index : Index} {tokens : List String} {threshold : Float} {row : ScoredRow} :
    row ∈ similar index tokens threshold ↔ ∃ r ∈ index.toRows, ∃ token ∈ tokens,
      Text.similarity token r.key > threshold ∧ row = ⟨r.key, r.ids, Text.similarity token r.key⟩ := by
  simp only [similar, List.mem_flatMap, List.mem_filterMap, Option.ite_none_right_eq_some, Option.some.injEq]
  grind

theorem mem_prefixed {index : Index} {start : String} {row : Row} :
    row ∈ prefixed index start ↔ row ∈ index.toRows ∧ start.toList <+: row.key.toList := by
  simp [prefixed]

end StaffIndex.Search
