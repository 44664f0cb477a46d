import StaffIndex.Proofs.Json.ReadBack
import StaffIndex.Task.Id
import StaffIndex.Task.Json

/-!
# Reading back records, patches and tasks

What the service writes of an employee, a patch, a task or its id is read back as the same value, whatever the texts in
it and whichever of its optional fields are there (`whole_written`). Each kind of value is read from what is written
for it also inside of others, as `Employee.reads_written` and its like say.
-/

namespace StaffIndex

open Json

/-! ## Employees -/

namespace Field

theorem reads_written (f : Field) : reader.Reads f.written f := by
  have hbare : Json.Reader.pure (ofColumn f.column) = .pure f := by rw [ofColumn, ofColumn?_column]; rfl
  exact Reader.reads_bareVariant (List.mem_map_of_mem (mem_all f)) hbare

end Field

namespace Employee

theorem reads_written (e : Employee) : reader.Reads e.written e := by
  have hmembers : List.Forall₂ Member.Reads shape.members _ :=
    .cons (.of (Reader.reads_text e.id) _ _ _) <|
    .cons (.of (Reader.reads_text e.name) _ _ _) <|
    .cons (.of (Reader.reads_text e.surname) _ _ _) <|
    .cons (.of (Reader.reads_optionalText e.patronymic) _ _ _) <|
    .cons (.of (Reader.reads_optionalText e.role) _ _ _) <|
    .cons (.of (Reader.reads_optionalText e.email) _ _ _) <|
    .cons (.of (Reader.reads_optionalText e.birthday) _ _ _) <|
    .cons (.of (Reader.reads_optionalText e.telegramId) _ _ _) <|
    .cons (.of (Reader.reads_optionalText e.vkId) _ _ _) <|
    .cons (.of (Reader.reads_optionalText e.team) _ _ _) <|
    .cons (.of (Reader.reads_texts e.phones) _ _ _) <|
    .cons (.of (Reader.reads_optionalText e.photoLink) _ _ _) .nil
  exact Shape.reads_object (by decide) hmembers

end Employee

/-! ## Patches -/

namespace Patch

theorem reads_written (p : Patch) : reader.Reads p.written p := by
  have hphones : Reader.text.list.optional.Reads ((p.phones.map Written.texts).getD Written.null) p.phones :=
    Reader.reads_optional Reader.reads_texts (fun _ => by simp [Written.texts, Written.list]) p.phones
  have hmembers : List.Forall₂ Member.Reads shape.members _ :=
    .cons (.of (Reader.reads_optionalText p.name) _ _ _) <|
    .cons (.of (Reader.reads_optionalText p.surname) _ _ _) <|
    .cons (.of (Reader.reads_optionalText p.patronymic) _ _ _) <|
    .cons (.of (Reader.reads_optionalText p.role) _ _ _) <|
    .cons (.of (Reader.reads_optionalText p.email) _ _ _) <|
    .cons (.of (Reader.reads_optionalText p.birthday) _ _ _) <|
    .cons (.of (Reader.reads_optionalText p.telegramId) _ _ _) <|
    .cons (.of (Reader.reads_optionalText p.vkId) _ _ _) <|
    .cons (.of (Reader.reads_optionalText p.team) _ _ _) <|
    .cons (.of hphones _ _ _) .nil
  exact Shape.reads_object (by decide) hmembers

end Patch

/-! ## Tasks -/

theorem TaskId.reads_written (id : TaskId) : reader.Reads id.written id := (Reader.reads_text id.text).map _

namespace Task

/-- The contents of an add and of a delete. -/
theorem reads_pair (name : String) (id : EmployeeId) (values : List String) :
    (Reader.record (pairShape name)).Reads
      (Written.object [("id", Written.text id), ("values", Written.texts values)]) (id, values) := by
  have hmembers : List.Forall₂ Member.Reads (pairShape name).members _ :=
    .cons (.of (Reader.reads_text id) _ _ _) <|
    .cons (.of (Reader.reads_texts values) _ _ _) .nil
  exact Shape.reads_object (by simp [pairShape, Member.of]) hmembers

/-- The contents of an edit. -/
theorem reads_edit (id : EmployeeId) (changed : List Field) (values : List String) :
    (Reader.record editShape).Reads
      (Written.object [("id", Written.text id), ("changed", Written.list (changed.map Field.written)),
        ("values", Written.texts values)]) (id, changed, values) := by
  have hmembers : List.Forall₂ Member.Reads editShape.members _ :=
    .cons (.of (Reader.reads_text id) _ _ _) <|
    .cons (.of (Reader.reads_list Field.reads_written changed) _ _ _) <|
    .cons (.of (Reader.reads_texts values) _ _ _) .nil
  exact Shape.reads_object (by decide) hmembers

theorem reads_written (t : Task) : reader.Reads t.written t := by
  cases t with
  | add id values => exact Reader.reads_variant (by decide) ((reads_pair _ id values).map _)
  | delete id values => exact Reader.reads_variant (by decide) ((reads_pair _ id values).map _)
  | edit id changed values => exact Reader.reads_variant (by decide) ((reads_edit id changed values).map _)

example : String.ofList (add "e1" ["\"Ann\""]).written =
    "\x7b\"Add\":\x7b\"id\":\"e1\",\"values\":[\"\\\"Ann\\\"\"]\x7d\x7d" := by decide

end Task

/-! ## Whole texts -/

/-- **A task, a task's id, an employee and a patch are each read back from what is written of them.** -/
theorem whole_written (t : Task) (id : TaskId) (e : Employee) (p : Patch) :
    Task.reader.whole (String.ofList t.written) = .ok t ∧
      TaskId.reader.whole (String.ofList id.written) = .ok id ∧
      Employee.reader.whole (String.ofList e.written) = .ok e ∧
      Patch.reader.whole (String.ofList p.written) = .ok p :=
  ⟨t.reads_written.whole, id.reads_written.whole, e.reads_written.whole, p.reads_written.whole⟩

end StaffIndex
