import Mathlib.Data.List.Nodup
import StaffIndex.Proofs.Indexing.Effect
import StaffIndex.Proofs.Service.Access

/-!
# What a task does to every row

A task takes its employee out from under some keys (`Task.taken?`) and then files it under some (`Task.filed`). Only an
edit of an employee that is not stored cannot do so (`taken?_eq_none_iff`), and fails.

- A task that can do so comes to one removal and one append, whatever its kind (`run_perform_of_taken`).
- No key is filed under twice, so a row ends with the id at most once more than before (`Index.idsAt_append_of_nodup`),
  and a key among both the taken and the filed ones moves the id to the end of its row (`rows_of_performed`).
-/

namespace StaffIndex

namespace Task

/-- The keys that the task takes its employee out from under: none for an add, those of the given values for a delete,
and for an edit those of what is stored in the changed fields, if there is such an employee. -/
def taken? (staff : Staff) : Task → Option (List String)
  | .add _ _ => some []
  | .delete _ values => some (Key.ofValues values)
  | .edit id changed _ => (staff.find? id).map fun e => Key.ofValues (e.valuesOf changed)

/-- The keys that the task files its employee under. -/
def filed : Task → List String
  | .add _ values => Key.ofValues values
  | .delete _ _ => []
  | .edit _ _ values => Key.ofValues values

theorem taken?_eq_none_iff {staff : Staff} {task : Task} : task.taken? staff = none ↔
    ∃ id changed values, task = .edit id changed values ∧ staff.find? id = none := by
  cases task with
  | add id values => simp [taken?]
  | delete id values => simp [taken?]
  | edit id changed values => simp [taken?]

theorem nodup_filed (task : Task) : task.filed.Nodup := by
  cases task with
  | add id values => exact Key.nodup_ofValues values
  | delete id values => exact .nil
  | edit id changed values => exact Key.nodup_ofValues values

end Task

/-- Each of the keys gets the id once. -/
theorem Index.idsAt_append_of_nodup (index : Index) (id : EmployeeId) {keys : List String} (h : keys.Nodup)
    (key : String) : (index.append id keys).idsAt key = index.idsAt key ++ if key ∈ keys then [id] else [] := by
  rw [idsAt_append]
  by_cases hk : key ∈ keys
  · rw [List.count_eq_one_of_mem h hk, if_pos hk]
    rfl
  · rw [List.count_eq_zero_of_not_mem hk, if_neg hk]
    rfl

namespace Indexing

variable {s : Stores} {task : Task} {taken : List String}

/-! ## One removal and one append -/

theorem run_perform_of_taken (h : task.taken? s.staff = some taken) : s.run (perform task) =
    (.ok (), { s with index := (s.index.remove task.employeeId taken).append task.employeeId task.filed }) := by
  cases task with
  | add id values =>
    cases h
    exact run_add s id values
  | delete id values =>
    cases h
    exact run_delete s id values
  | edit id changed values =>
    obtain ⟨e, he, rfl⟩ := Option.map_eq_some_iff.1 h
    rw [perform, run_edit, Staff.values?, he]
    rfl

theorem run_perform_of_not_taken (h : task.taken? s.staff = none) :
    s.run (perform task) = (.error (.employeeNotFound task.employeeId), s) := by
  obtain ⟨id, changed, values, rfl, he⟩ := Task.taken?_eq_none_iff.1 h
  rw [perform, run_edit, Staff.values?, he]
  rfl

/-! ## Rows -/

/-- **What a task does.** It fails only if it edits an employee that is not stored, and then nothing has changed.
Otherwise the row of every key has the ids that it had, without any occurrence of the employee's if the key is one of
the taken, and with that id once more at the end if the key is one of the filed; there is no row if there are none. No
record changes. -/
theorem rows_of_performed {a : Access} (h : a.Open) (admitted : Bool) (task : Task) :
    (task.taken? a.stores.staff = none ↔
      ∃ id changed values, task = .edit id changed values ∧ a.stores.staff.find? id = none) ∧
    (task.taken? a.stores.staff = none →
      a.advance admitted (perform task) = (.ended (.error (.employeeNotFound task.employeeId)), a)) ∧
    ∀ taken, task.taken? a.stores.staff = some taken → ∃ index,
      a.advance admitted (perform task) = (.ended (.ok ()), { a with stores := ⟨index, a.stores.staff⟩ }) ∧
      ∀ key, index.find? key = Index.occupied?
        ((if key ∈ taken then (a.stores.index.idsAt key).filter (· ≠ task.employeeId) else a.stores.index.idsAt key) ++
          if key ∈ task.filed then [task.employeeId] else []) := by
  refine ⟨Task.taken?_eq_none_iff, fun hn => ?_, fun taken ht => ?_⟩
  · rw [Access.advance_of_open h, run_perform_of_not_taken hn]
  · refine ⟨_, by rw [Access.advance_of_open h, run_perform_of_taken ht], fun key => ?_⟩
    rw [Index.find?_eq_occupied?, Index.idsAt_append_of_nodup _ _ task.nodup_filed, Index.idsAt_remove]

/-- Anna and Boris are filed under their team, Anna twice. -/
def sharedRow : Access where
  stores :=
    { index := ((Index.empty.append "e1" ["core"]).append "e2" ["core"]).append "e1" ["core"]
      staff := Staff.empty.insert { id := "e1", name := "Anna", surname := "Orlova", team := some "Core" } }

/-- A team that only gets another spelling is taken and filed, so Anna moves to the end of the row and stands there
once. -/
theorem rows_of_performed_respelledTeam : ∃ index,
    sharedRow.advance false (perform (.edit "e1" [.team, .team] ["CORE", "core"])) =
      (.ended (.ok ()), { sharedRow with stores := ⟨index, sharedRow.stores.staff⟩ }) ∧
    index.find? "core" = some ["e2", "e1"] := by
  have hopen : sharedRow.Open := ⟨⟨rfl, rfl⟩, rfl⟩
  have htaken : (Task.edit "e1" [.team, .team] ["CORE", "core"]).taken? sharedRow.stores.staff = some ["core"] := by
    decide +kernel
  obtain ⟨index, hadvance, hrows⟩ := (rows_of_performed hopen false _).2.2 _ htaken
  exact ⟨index, hadvance, (hrows "core").trans (by decide +kernel)⟩

end Indexing

end StaffIndex
