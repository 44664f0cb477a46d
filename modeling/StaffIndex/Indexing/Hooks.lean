import StaffIndex.Employee.Patch
import StaffIndex.Plan
import StaffIndex.Task

/-!
# Hooks

What has to be queued when an employee is created, edited or deleted. The hook of a creation is called after the record
is written, those of an edit and a deletion before. An employee without an id is never indexed.
-/

namespace StaffIndex.Indexing

/-- Refuses the empty id. -/
def checkId (id : EmployeeId) : Except IndexError Unit :=
  if id.isEmpty then .error .emptyId else .ok ()

/-- The task for a new record, if it has values. -/
def created (e : Employee) : Except IndexError (Option Task) := do
  checkId e.id
  return if e.indexableValues.isEmpty then none else some (.add e.id e.indexableValues)

/-- The task for a patch, if it changes anything. The old values are left for the task to read. -/
def edited (id : EmployeeId) (p : Patch) : Except IndexError (Option Task) := do
  checkId id
  return if p.isEmpty then none else some (.edit id p.changedFields p.values)

/-- The task for a record about to be deleted, with the values stored at the time. -/
def deleted (id : EmployeeId) : Plan IndexError Task :=
  match checkId id with
  | .error e => .fail e
  | .ok () => do
    match ← Plan.request (.values id Field.all) with
    | none => .fail (.employeeNotFound id)
    | some values => return .delete id values

end StaffIndex.Indexing
