import Mathlib.Data.Set.Card
import StaffIndex.Index

/-!
# The index as a log

The index that a log of writes leaves can be read off the log (`rows_of_written`): under a key stand the ids that were
filed there and have not been taken out from there later, in the order of filing.

- A write keeps what it does not take out, in its order, and what it files comes last, so one equation covers a whole
  log from any index on (`idsAt_foldl_write`).
- There is a row for each key with ids and for no other, so the size is the number of these keys (`encard_rows`).
-/

namespace StaffIndex.Index

/-- A change of the index. -/
inductive Write where
  | append (id : EmployeeId) (keys : List String)
  | remove (id : EmployeeId) (keys : List String)

def write (index : Index) : Write → Index
  | .append id keys => index.append id keys
  | .remove id keys => index.remove id keys

/-- The index after the writes of a log, from an empty one. -/
def written (log : List Write) : Index := log.foldl write empty

/-! ## Logs -/

/-- The write takes the id out from under the key. -/
def Write.Drops (id : EmployeeId) (key : String) : Write → Prop
  | .append _ _ => False
  | .remove i keys => i = id ∧ key ∈ keys

instance (id : EmployeeId) (key : String) : (w : Write) → Decidable (w.Drops id key)
  | .append _ _ => inferInstanceAs (Decidable False)
  | .remove i keys => inferInstanceAs (Decidable (i = id ∧ key ∈ keys))

/-- No write of the log does. -/
def Spares (log : List Write) (key : String) (id : EmployeeId) : Prop := ∀ w ∈ log, ¬ w.Drops id key

instance (log : List Write) (key : String) : DecidablePred (Spares log key) :=
  fun id => inferInstanceAs (Decidable (∀ w ∈ log, ¬ w.Drops id key))

/-- An id that was filed under a key, with the writes that came after. -/
structure Filing where
  id : EmployeeId
  key : String
  later : List Write

/-- All filings of a log, in the order of the writes, and for each write in the order of its keys. -/
def filings : List Write → List Filing
  | [] => []
  | .append id keys :: later => keys.map (⟨id, ·, later⟩) ++ filings later
  | .remove _ _ :: later => filings later

/-- The ids that were filed under the key and not taken out again. -/
def lasting (log : List Write) (key : String) : List EmployeeId :=
  ((filings log).filter fun f => f.key = key ∧ Spares f.later key f.id).map (·.id)

variable {log : List Write} {key : String} {id : EmployeeId} {keys : List String}

theorem spares_append_cons : Spares (.append id keys :: log) key = Spares log key := by
  funext a
  exact propext (List.forall_mem_cons.trans (and_iff_right fun h => h))

theorem spares_remove_cons {a : EmployeeId} :
    Spares (.remove id keys :: log) key a ↔ ¬ (id = a ∧ key ∈ keys) ∧ Spares log key a :=
  List.forall_mem_cons

/-- What an append files under a key lasts just as if it had been there before the later writes. -/
theorem lasting_append_cons : lasting (.append id keys :: log) key =
    (List.replicate (keys.count key) id).filter (Spares log key) ++ lasting log key := by
  have hnew : (keys.map fun k => (⟨id, k, log⟩ : Filing)).filter (fun f => f.key = key ∧ Spares f.later key f.id) =
      if Spares log key id then List.replicate (keys.count key) ⟨id, key, log⟩ else [] := by
    induction keys with
    | nil => simp
    | cons k keys ih =>
      rw [List.map_cons, List.filter_cons, ih]
      by_cases hk : k = key
      · subst hk
        by_cases hs : Spares log k id <;> simp [hs, List.replicate_succ]
      · rw [List.count_cons_of_ne hk]
        simp [hk]
  rw [lasting, filings, List.filter_append, List.map_append, ← lasting, hnew]
  by_cases hs : Spares log key id <;> simp [hs]

theorem lasting_remove_cons : lasting (.remove id keys :: log) key = lasting log key := rfl

/-! ## Rows -/

/-- **Any log on any index.** Under a key stand those of the ids before that the log spares, and then those that it has
filed to last. -/
theorem idsAt_foldl_write (log : List Write) (index : Index) (key : String) :
    (log.foldl write index).idsAt key = (index.idsAt key).filter (Spares log key) ++ lasting log key := by
  induction log generalizing index with
  | nil => simp [lasting, filings, Spares]
  | cons w log ih =>
    rw [List.foldl_cons, ih]
    cases w with
    | append id keys =>
      rw [write, idsAt_append, List.filter_append, List.append_assoc, ← lasting_append_cons]
      simp only [spares_append_cons]
    | remove id keys =>
      rw [write, idsAt_remove, lasting_remove_cons]
      congr 1
      by_cases hk : key ∈ keys
      · rw [if_pos hk, List.filter_filter]
        refine List.filter_congr fun a _ => ?_
        simp [spares_remove_cons, hk, ne_comm, Bool.and_comm]
      · rw [if_neg hk]
        refine List.filter_congr fun a _ => ?_
        simp [spares_remove_cons, hk]

theorem idsAt_written (log : List Write) (key : String) : (written log).idsAt key = lasting log key := by
  rw [written, idsAt_foldl_write, idsAt_empty]
  rfl

theorem mem_keys {index : Index} : key ∈ index.rows.keys ↔ index.idsAt key ≠ [] := by
  have hmem : key ∈ index.rows.keys ↔ ∃ ids, index.find? key = some ids := by
    simp only [SortedMap.keys, List.mem_map, Prod.exists, exists_and_right, exists_eq_right, find?,
      SortedMap.mem_entries_iff]
  rw [hmem, find?_eq_occupied?, occupied?]
  by_cases h : index.idsAt key = [] <;> simp [h]

/-- There are as many rows as keys that have ids. -/
theorem encard_rows (index : Index) : {key | index.idsAt key ≠ []}.encard = index.size := by
  have hset : {key | index.idsAt key ≠ []} = (index.rows.keys.toFinset : Set String) := by
    ext key
    simp [mem_keys]
  rw [hset, Set.encard_coe_eq_coe_finsetCard, List.toFinset_card_of_nodup index.rows.nodup_keys]
  simp [SortedMap.keys, size]

/-- **The index is its log.** The row of a key has the ids that were filed under it and not taken out again, in the order
of filing; there is no row if there are none; and the size is the number of keys that have some. -/
theorem rows_of_written (log : List Write) :
    (∀ key, (written log).find? key = if lasting log key = [] then none else some (lasting log key)) ∧
      {key | lasting log key ≠ []}.encard = (written log).size := by
  constructor
  · intro key
    rw [find?_eq_occupied?, idsAt_written, occupied?]
  · simp only [← idsAt_written]
    exact encard_rows _

/-- A row that was emptied begins anew, and what one id loses does not move the others. -/
example : lasting [.append "e1" ["core", "core", "anna"], .append "e2" ["core"], .remove "e1" ["core", "anna"],
    .append "e1" ["anna", "core"]] "core" = ["e2", "e1"] := by decide

end StaffIndex.Index
