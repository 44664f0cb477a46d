import StaffIndex.Indexing.Hooks
import StaffIndex.Indexing.Tasks
import StaffIndex.Stores

/-!
# What tasks do to the stores

An add and a delete change the index by the keys of their values and nothing else (`run_add`, `run_delete`). An edit
does both, with what is stored in the changed fields for the delete, or fails at once if there is no such employee
(`run_edit`). With a proper id, each hook asks for the task of its kind (`created_of_ne`, `edited_of_ne`,
`run_deleted`).
-/

namespace StaffIndex.Indexing

open Stores

/-! ## Tasks -/

theorem run_add (s : Stores) (id : EmployeeId) (values : List String) :
    s.run (add id values) = (.ok (), { s with index := s.index.append id (Key.ofValues values) }) := by
  unfold add
  split
  · next h => rw [h]; rfl
  · rfl

theorem run_delete (s : Stores) (id : EmployeeId) (values : List String) :
    s.run (delete id values) = (.ok (), { s with index := s.index.remove id (Key.ofValues values) }) := by
  unfold delete
  split
  · next h => rw [h]; rfl
  · rfl

theorem run_edit (s : Stores) (id : EmployeeId) (changed : List Field) (values : List String) :
    s.run (edit id changed values) = match s.staff.values? id changed with
      | none => (.error (.employeeNotFound id), s)
      | some old => (.ok (),
          { s with index := (s.index.remove id (Key.ofValues old)).append id (Key.ofValues values) }) := by
  unfold edit
  rw [run_bind, run_request]
  simp only [answer]
  cases s.staff.values? id changed with
  | none => rfl
  | some old => simp only [run_bind, run_delete, run_add]

/-! ## Hooks -/

theorem checkId_of_ne {id : EmployeeId} (h : id ≠ "") : checkId id = .ok () := by
  simp [checkId, h]

theorem created_of_eq {e : Employee} (h : e.id = "") : created e = .error .emptyId := by
  rw [created, h]
  rfl

theorem edited_of_eq {id : EmployeeId} (h : id = "") (p : Patch) : edited id p = .error .emptyId := by
  rw [edited, h]
  rfl

/-- A record always has values, as its name is one. -/
theorem created_of_ne {e : Employee} (h : e.id ≠ "") : created e = .ok (some (.add e.id e.indexableValues)) := by
  unfold created
  rw [checkId_of_ne h]
  rfl

theorem edited_of_ne {id : EmployeeId} (h : id ≠ "") (p : Patch) :
    edited id p = .ok (if p.isEmpty then none else some (.edit id p.changedFields p.values)) := by
  unfold edited
  rw [checkId_of_ne h]
  rfl

theorem run_deleted {id : EmployeeId} (h : id ≠ "") (s : Stores) :
    s.run (deleted id) = match s.staff.find? id with
      | none => (.error (.employeeNotFound id), s)
      | some e => (.ok (.delete id e.indexableValues), s) := by
  have hv : (s.answer (.values id Field.all)).1 = (s.staff.find? id).map Employee.indexableValues := rfl
  unfold deleted
  rw [checkId_of_ne h, run_bind, run_request]
  simp only [hv]
  cases s.staff.find? id <;> rfl

end StaffIndex.Indexing
