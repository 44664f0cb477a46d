import StaffIndex.Employee
import StaffIndex.Sorted.Map

/-!
# The reverse index

For every key the ids filed under it, in the order of filing and with repetitions. A key without ids has no row, so an
index is determined by what `idsAt` says of each key (`Index.ext`). `idsAt_update` says all about a change of one key,
`idsAt_append` and `idsAt_remove` all about the two changes of several keys at once.
-/

namespace StaffIndex

/-- A key with the ids filed under it. -/
structure Row where
  key : String
  ids : List EmployeeId
  deriving DecidableEq

structure Index where
  rows : SortedMap (List EmployeeId)
  /-- No row is empty. -/
  occupied : ∀ key ids, rows.find? key = some ids → ids ≠ []

namespace Index

def empty : Index := ⟨.empty, by simp⟩

def find? (index : Index) (key : String) : Option (List EmployeeId) := index.rows.find? key

/-- The ids filed under a key, none if there is no row. -/
def idsAt (index : Index) (key : String) : List EmployeeId := (index.find? key).getD []

/-- The rows by ascending key. -/
def toRows (index : Index) : List Row := index.rows.entries.map fun e => ⟨e.1, e.2⟩

def size (index : Index) : Nat := index.rows.entries.length

/-- A row of the ids, unless there are none. -/
def occupied? (ids : List EmployeeId) : Option (List EmployeeId) := if ids = [] then none else some ids

/-- The ids at `key` replaced by what `f` makes of them. -/
def update (index : Index) (key : String) (f : List EmployeeId → List EmployeeId) : Index where
  rows := index.rows.alter key fun ids => occupied? (f (ids.getD []))
  occupied k ids h := by
    rw [SortedMap.find?_alter] at h
    split at h
    · unfold occupied? at h; split at h <;> simp_all
    · exact index.occupied k ids h

/-- Files `id` once more under each of the keys. -/
def append (index : Index) (id : EmployeeId) (keys : List String) : Index :=
  keys.foldl (fun ix key => ix.update key (· ++ [id])) index

/-- Drops every occurrence of `id` under each of the keys. -/
def remove (index : Index) (id : EmployeeId) (keys : List String) : Index :=
  keys.foldl (fun ix key => ix.update key (·.filter (· ≠ id))) index

theorem find?_eq_occupied? (index : Index) (key : String) : index.find? key = occupied? (index.idsAt key) := by
  unfold idsAt occupied?
  cases h : index.find? key with
  | none => simp
  | some ids => simp [index.occupied key ids h]

theorem getD_occupied? (ids : List EmployeeId) : (occupied? ids).getD [] = ids := by
  unfold occupied?; split <;> simp_all

@[simp] theorem idsAt_update (index : Index) (key k : String) (f : List EmployeeId → List EmployeeId) :
    (index.update key f).idsAt k = if k = key then f (index.idsAt key) else index.idsAt k := by
  simp only [idsAt, find?, update, SortedMap.find?_alter]
  split
  · exact getD_occupied? _
  · rfl

@[simp] theorem idsAt_empty (key : String) : empty.idsAt key = [] := rfl

@[simp] theorem append_nil (index : Index) (id : EmployeeId) : index.append id [] = index := rfl

@[simp] theorem append_cons (index : Index) (id : EmployeeId) (key : String) (keys : List String) :
    index.append id (key :: keys) = (index.update key (· ++ [id])).append id keys := rfl

@[simp] theorem remove_nil (index : Index) (id : EmployeeId) : index.remove id [] = index := rfl

@[simp] theorem remove_cons (index : Index) (id : EmployeeId) (key : String) (keys : List String) :
    index.remove id (key :: keys) = (index.update key (·.filter (· ≠ id))).remove id keys := rfl

/-- The id comes last, once for every time the key is among the keys. -/
theorem idsAt_append (index : Index) (id : EmployeeId) (keys : List String) (k : String) :
    (index.append id keys).idsAt k = index.idsAt k ++ List.replicate (keys.count k) id := by
  induction keys generalizing index with
  | nil => simp
  | cons key keys ih =>
    rw [append_cons, ih, idsAt_update]
    by_cases h : k = key
    · subst h; simp [List.replicate_succ]
    · have hk : key ≠ k := fun e => h e.symm
      simp [h, List.count_cons_of_ne hk]

theorem idsAt_remove (index : Index) (id : EmployeeId) (keys : List String) (k : String) :
    (index.remove id keys).idsAt k = if k ∈ keys then (index.idsAt k).filter (· ≠ id) else index.idsAt k := by
  induction keys generalizing index with
  | nil => simp
  | cons key keys ih =>
    rw [remove_cons, ih, idsAt_update]
    by_cases h : k = key
    · subst h; simp
    · simp [h]

theorem mem_idsAt_append {index : Index} {id a : EmployeeId} {keys : List String} {k : String} :
    a ∈ (index.append id keys).idsAt k ↔ a ∈ index.idsAt k ∨ (a = id ∧ k ∈ keys) := by
  rw [idsAt_append, List.mem_append, List.mem_replicate, ← Nat.pos_iff_ne_zero, List.count_pos_iff,
    and_comm (a := a = id)]

theorem mem_idsAt_remove {index : Index} {id a : EmployeeId} {keys : List String} {k : String} :
    a ∈ (index.remove id keys).idsAt k ↔ a ∈ index.idsAt k ∧ (a = id → k ∉ keys) := by
  rw [idsAt_remove]
  split <;> simp_all

theorem mem_toRows {index : Index} {row : Row} : row ∈ index.toRows ↔ index.find? row.key = some row.ids := by
  unfold toRows find?
  rw [← SortedMap.mem_entries_iff]
  cases row
  simp

/-- The rows hold the ids filed under their keys. -/
theorem idsAt_of_mem_toRows {index : Index} {row : Row} (h : row ∈ index.toRows) : index.idsAt row.key = row.ids := by
  rw [idsAt, mem_toRows.1 h, Option.getD_some]

/-- The rows are the keys with ids. -/
theorem exists_mem_toRows_iff {index : Index} {p : String → Prop} {id : EmployeeId} :
    (∃ row ∈ index.toRows, p row.key ∧ id ∈ row.ids) ↔ ∃ key, p key ∧ id ∈ index.idsAt key := by
  constructor
  · rintro ⟨row, hrow, hp, hid⟩
    exact ⟨row.key, hp, (idsAt_of_mem_toRows hrow).symm ▸ hid⟩
  · rintro ⟨key, hp, hid⟩
    have hfind : index.find? key = some (index.idsAt key) := by
      rw [find?_eq_occupied?, occupied?, if_neg (List.ne_nil_of_mem hid)]
    exact ⟨⟨key, index.idsAt key⟩, mem_toRows.2 hfind, hp, hid⟩

theorem ext {a b : Index} (h : ∀ key, a.idsAt key = b.idsAt key) : a = b := by
  have hr : a.rows = b.rows := SortedMap.ext fun key => by
    rw [show a.rows.find? key = _ from find?_eq_occupied? a key, show b.rows.find? key = _ from find?_eq_occupied? b key,
      h key]
  cases a; cases b; cases hr; rfl

/-- What was filed under the keys goes with the removal. -/
theorem remove_append (index : Index) (id : EmployeeId) (keys : List String) :
    (index.append id keys).remove id keys = index.remove id keys := by
  refine ext fun key => ?_
  rw [idsAt_remove, idsAt_remove, idsAt_append]
  by_cases hkey : key ∈ keys
  · rw [if_pos hkey, if_pos hkey, List.filter_append, List.filter_replicate, if_neg (by simp), List.append_nil]
  · rw [if_neg hkey, if_neg hkey, List.count_eq_zero_of_not_mem hkey]
    exact List.append_nil _

theorem filter_idsAt_eq_iff {index : Index} {id : EmployeeId} {key : String} :
    (index.idsAt key).filter (· ≠ id) = index.idsAt key ↔ id ∉ index.idsAt key := by
  rw [List.filter_eq_self]
  constructor
  · intro h hid
    simpa using h id hid
  · intro h a ha
    have hne : a ≠ id := fun heq => h (heq ▸ ha)
    simpa using hne

/-- An id that is not under the keys cannot be taken out from there. -/
theorem remove_eq_self {index : Index} {id : EmployeeId} {keys : List String} (h : ∀ key ∈ keys, id ∉ index.idsAt key) :
    index.remove id keys = index := by
  refine ext fun key => ?_
  rw [idsAt_remove]
  split
  · next hkey => exact filter_idsAt_eq_iff.2 (h key hkey)
  · rfl

end Index

end StaffIndex
