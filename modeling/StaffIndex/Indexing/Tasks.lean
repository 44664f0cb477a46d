import StaffIndex.Key
import StaffIndex.Plan
import StaffIndex.Task

/-!
# Running a task

An add files the employee under the keys of its values and a delete takes it out, each in one request, and none if there
are no values. An edit looks up what is stored of the changed fields, takes the employee out from under that, and files
it under the new values.
-/

namespace StaffIndex.Indexing

/-- Files `id` under the keys of the values. -/
def add (id : EmployeeId) (values : List String) : Plan IndexError Unit :=
  match Key.ofValues values with
  | [] => pure ()
  | keys => .request (.append id keys)

/-- Takes `id` out from under the keys of the values. -/
def delete (id : EmployeeId) (values : List String) : Plan IndexError Unit :=
  match Key.ofValues values with
  | [] => pure ()
  | keys => .request (.remove id keys)

/-- Replaces what is stored in the changed fields by the values. -/
def edit (id : EmployeeId) (changed : List Field) (values : List String) : Plan IndexError Unit := do
  match ← Plan.request (.values id changed) with
  | none => .fail (.employeeNotFound id)
  | some old =>
    delete id old
    add id values

def perform : Task → Plan IndexError Unit
  | .add id values => add id values
  | .delete id values => delete id values
  | .edit id changed values => edit id changed values

end StaffIndex.Indexing
