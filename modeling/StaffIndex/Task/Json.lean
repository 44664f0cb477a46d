import StaffIndex.Employee.Json
import StaffIndex.Task

/-!
# Tasks as JSON

A task is written as an object with the name of its kind and the contents of that kind.
-/

namespace StaffIndex.Task

open Json (Reader Shape)

/-- The contents of an add and of a delete. -/
def pairShape (name : String) : Shape (EmployeeId × List String) where
  name := name
  blank := ("", [])
  members := [
    .of "id" true .text fun v t => (v, t.2),
    .of "values" true (.list .text) fun v t => (t.1, v)]

/-- The contents of an edit. -/
def editShape : Shape (EmployeeId × List Field × List String) where
  name := "struct variant IndexTask::Edit"
  blank := ("", [], [])
  members := [
    .of "id" true .text fun v t => (v, t.2),
    .of "changed" true (.list Field.reader) fun v t => (t.1, v, t.2.2),
    .of "values" true (.list .text) fun v t => (t.1, t.2.1, v)]

def addReader : Reader Task :=
  (Reader.record (pairShape "struct variant IndexTask::Add")).bind fun t => .pure (.add t.1 t.2)

def deleteReader : Reader Task :=
  (Reader.record (pairShape "struct variant IndexTask::Delete")).bind fun t => .pure (.delete t.1 t.2)

def editReader : Reader Task :=
  (Reader.record editShape).bind fun t => .pure (.edit t.1 t.2.1 t.2.2)

def reader : Reader Task :=
  .variant ["Add", "Delete", "Edit"] (fun _ => .fail (.wrongType .unitVariant "struct variant")) fun name =>
    if name = "Add" then addReader else if name = "Delete" then deleteReader else editReader

def written : Task → List Char
  | add id values => Json.Written.object [("Add", Json.Written.object [
      ("id", Json.Written.text id), ("values", Json.Written.texts values)])]
  | delete id values => Json.Written.object [("Delete", Json.Written.object [
      ("id", Json.Written.text id), ("values", Json.Written.texts values)])]
  | edit id changed values => Json.Written.object [("Edit", Json.Written.object [
      ("id", Json.Written.text id), ("changed", Json.Written.list (changed.map Field.written)),
      ("values", Json.Written.texts values)])]

end StaffIndex.Task
