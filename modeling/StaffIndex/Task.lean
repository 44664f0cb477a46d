import StaffIndex.Employee

/-!
# Indexing tasks

A task is one change of the index on behalf of one employee. It carries raw values; their keys are made when it runs.
-/

namespace StaffIndex

inductive Task where
  /-- File the employee under the values. -/
  | add (id : EmployeeId) (values : List String)
  /-- Take the employee out from under the values. -/
  | delete (id : EmployeeId) (values : List String)
  /-- Replace what the employee is filed under for the changed fields; the old values are those stored when the task
  runs. -/
  | edit (id : EmployeeId) (changed : List Field) (values : List String)
  deriving DecidableEq

namespace Task

def employeeId : Task → EmployeeId
  | add id _ => id
  | delete id _ => id
  | edit id _ _ => id

def kind : Task → String
  | add .. => "add"
  | delete .. => "delete"
  | edit .. => "edit"

end Task

end StaffIndex
