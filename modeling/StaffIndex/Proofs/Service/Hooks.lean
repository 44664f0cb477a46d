import StaffIndex.Proofs.Service.Provenance

/-!
# What a hook comes to

A hook is told that an employee is created, edited or about to be deleted. It queues the task that belongs to the change
(`Command.hookTask?`), or it queues nothing, and then the service is as before, but for a permit that the hook may have
used up on its way to the stores.

- Only the hook of a deletion asks the stores, and only about a proper id (`Indexing.deleted_of_ne`). It may find no
  record, fail, crash or be held up, and otherwise queues the values of the record (`hooked_deleted`).
- The empty id is refused by all three before anything else (`step_of_emptyId`). So it gets into no row, however long a
  service runs and however its jobs take turns, unless somebody passes by the hooks to file it (`hooks_submit_or_keep`).
-/

namespace StaffIndex

namespace Command

/-- The employee that a hook is told of. -/
def hookId? : Command → Option EmployeeId
  | .created e => some e.id
  | .edited id _ => some id
  | .deleted id => some id
  | _ => none

/-- The task that belongs to the change. An empty patch changes nothing, and of an employee that is not stored there is
nothing to delete. -/
def hookTask? (staff : Staff) : Command → Option Task
  | .created e => some (.add e.id e.indexableValues)
  | .edited id p => if p.isEmpty then none else some (.edit id p.changedFields p.values)
  | .deleted id => (staff.find? id).map fun e => .delete id e.indexableValues
  | _ => none

theorem hookTask?_edited_eq_some_iff {staff : Staff} {id : EmployeeId} {p : Patch} {task : Task} :
    (edited id p).hookTask? staff = some task ↔ p.isEmpty = false ∧ .edit id p.changedFields p.values = task := by
  simp [hookTask?]

/-- The task is for the employee that the hook is told of. -/
theorem employeeId_of_hookTask? {staff : Staff} {c : Command} {id : EmployeeId} {task : Task}
    (hid : c.hookId? = some id) (htask : c.hookTask? staff = some task) : task.employeeId = id := by
  cases c with
  | created e =>
    cases hid
    cases htask
    rfl
  | edited i p =>
    cases hid
    obtain ⟨-, rfl⟩ := hookTask?_edited_eq_some_iff.1 htask
    rfl
  | deleted i =>
    cases hid
    obtain ⟨e, -, rfl⟩ := Option.map_eq_some_iff.1 htask
    rfl
  | _ => cases hid

end Command

/-- With a proper id there is one question, and then nothing can go wrong but that there is no record. -/
theorem Indexing.deleted_of_ne {id : EmployeeId} (h : id ≠ "") : deleted id = .ask (.values id Field.all) fun found =>
    match found with
    | none => .fail (.employeeNotFound id)
    | some values => .done (.delete id values) := by
  unfold deleted
  rw [checkId_of_ne h]
  rfl

namespace Service

variable {s : Service} {c : Command} {id : EmployeeId} {task : Task}

/-- The service with that many permits left at its gate. -/
def withPermits (s : Service) (n : Nat) : Service := { s with access.gate.permits := n }

/-- How a hook can end. -/
inductive Hooked (s : Service) (c : Command) : Answer × Service → Prop
  | queued {task : Task} (n : Nat) (htask : c.hookTask? s.staff = some task) (hid : task.employeeId ≠ "") :
    Hooked s c (.queued true, (s.withPermits n).submit task)
  | empty : Hooked s c (.queued false, s)
  | refused (n : Nat) (e : IndexError) : Hooked s c (.error (.index e), s.withPermits n)
  | crashed (n : Nat) : Hooked s c (.crashed, s.withPermits n)
  /-- The jobs went on while the hook was held up. -/
  | blocked : Hooked s c (.blocked, s.settle)

/-! ## Hooks one by one -/

/-- The empty id is refused, whatever the stores would say. -/
theorem step_of_emptyId (s : Service) (hc : c.hookId? = some "") : s.step c = (.error (.index .emptyId), s) := by
  cases c with
  | created e =>
    have hid : e.id = "" := Option.some.inj hc
    simp only [step, employeeCreated, Indexing.created_of_eq hid]
    rfl
  | edited id p =>
    cases hc
    rfl
  | deleted id =>
    cases hc
    rfl
  | _ => cases hc

theorem step_created_of_ne (s : Service) {e : Employee} (h : e.id ≠ "") :
    s.step (.created e) = (.queued true, s.submit (.add e.id e.indexableValues)) := by
  simp only [step, employeeCreated, Indexing.created_of_ne h]
  rfl

theorem step_edited_of_ne (s : Service) (h : id ≠ "") (p : Patch) : s.step (.edited id p) =
    if p.isEmpty then (.queued false, s) else (.queued true, s.submit (.edit id p.changedFields p.values)) := by
  simp only [step, employeeEdited, Indexing.edited_of_ne h]
  split <;> rfl

theorem step_deleted_of_open (h : s.access.Open) (hid : id ≠ "") {e : Employee} (he : s.staff.find? id = some e) :
    s.step (.deleted id) = (.queued true, s.submit (.delete id e.indexableValues)) := by
  simp only [step, employeeDeleted_of_open h hid he]
  rfl

theorem hooked_deleted (s : Service) (hid : id ≠ "") : s.Hooked (.deleted id) (s.step (.deleted id)) := by
  simp only [step, employeeDeleted, call, Indexing.deleted_of_ne hid, Access.advance_ask]
  cases hpass : s.access.pass? (.values id Field.all) with
  | none => exact .blocked
  | some b =>
    obtain ⟨n, rfl⟩ := Access.exists_permits_of_pass? hpass
    dsimp only
    rcases hanswer : Access.answer { s.access with gate.permits := n } (.values id Field.all) with ⟨found | e | _, c⟩
    · obtain ⟨-, hfound, rfl⟩ := Access.reply_of_answer hanswer
      obtain rfl : found = (s.staff.find? id).map Employee.indexableValues := hfound
      cases hfind : s.staff.find? id with
      | none => exact .refused n (.employeeNotFound id)
      | some e => exact .queued n (congrArg (Option.map _) hfind) hid
    · obtain ⟨-, rfl⟩ := Access.error_of_answer hanswer
      exact .refused n (.store e)
    · obtain rfl := Access.crash_of_answer hanswer
      exact .crashed n

/-! ## All hooks -/

theorem hooked_step (s : Service) (hc : c.hookId? = some id) : s.Hooked c (s.step c) := by
  by_cases hid : id = ""
  · rw [step_of_emptyId s (hid ▸ hc)]
    exact .refused s.access.gate.permits .emptyId
  · cases c with
    | created e =>
      cases hc
      rw [step_created_of_ne s hid]
      exact .queued s.access.gate.permits rfl hid
    | edited i p =>
      cases hc
      rw [step_edited_of_ne s hid]
      cases hp : p.isEmpty with
      | true => exact .empty
      | false => exact .queued s.access.gate.permits (Command.hookTask?_edited_eq_some_iff.2 ⟨hp, rfl⟩) hid
    | deleted i =>
      cases hc
      exact hooked_deleted s hid
    | _ => cases hc

theorem step_of_hookTask? (h : s.access.Open) (hc : c.hookId? = some id) (hid : id ≠ "")
    (htask : c.hookTask? s.staff = some task) : s.step c = (.queued true, s.submit task) := by
  cases c with
  | created e =>
    cases hc
    cases htask
    exact step_created_of_ne s hid
  | edited i p =>
    cases hc
    obtain ⟨hp, rfl⟩ := Command.hookTask?_edited_eq_some_iff.1 htask
    rw [step_edited_of_ne s hid, hp]
    rfl
  | deleted i =>
    cases hc
    obtain ⟨e, he, rfl⟩ := Option.map_eq_some_iff.1 htask
    exact step_deleted_of_open h hid he
  | _ => cases hc

/-- **A hook queues one task or changes nothing.** Whatever the service holds, whatever its faults, its gate and its
jobs: the empty id is refused; a hook that reports a task has queued just the one that belongs to the change, for the
proper id it is told of; a hook that fails or reports no task has left index, staff, queue and jobs as they were. With
nothing in its way a hook queues that task if there is one. So from an index without the empty id no row ever gets it,
whatever commands are given and in whatever turns the jobs go on, if nobody files that id past the hooks and the seed. -/
theorem hooks_submit_or_keep :
    (∀ (s : Service) (c : Command) (id : EmployeeId), c.hookId? = some id →
      (id = "" → s.step c = (.error (.index .emptyId), s)) ∧
      ((s.step c).1 = .queued true → id ≠ "" ∧ ∃ task n, c.hookTask? s.staff = some task ∧ task.employeeId = id ∧
        (s.step c).2 = (s.withPermits n).submit task) ∧
      (((s.step c).1 = .queued false ∨ ∃ e, (s.step c).1 = .error e) → ∃ n, (s.step c).2 = s.withPermits n) ∧
      (s.access.Open → id ≠ "" → ∀ task, c.hookTask? s.staff = some task →
        s.step c = (.queued true, s.submit task))) ∧
    ∀ (s : Service) (turns : List Turn), (∀ key, "" ∉ s.index.idsAt key) → s.ready = [] → s.waiting = [] →
      (∀ c, .command c ∈ turns → c.FilesOnly fun id _ => id ≠ "") → ∀ key, "" ∉ (s.course turns).index.idsAt key := by
  constructor
  · intro s c id hc
    refine ⟨fun hid => step_of_emptyId s (hid ▸ hc), fun hqueued => ?_, fun hkept => ?_, fun hopen hid task htask =>
      step_of_hookTask? hopen hc hid htask⟩
    · have h := hooked_step s hc
      rcases hstep : s.step c with ⟨answer, t⟩
      rw [hstep] at h hqueued
      cases h with
      | queued n htask hid =>
        have hemployee := Command.employeeId_of_hookTask? hc htask
        exact ⟨hemployee ▸ hid, _, n, htask, hemployee, rfl⟩
      | empty | refused | crashed | blocked => cases hqueued
    · have h := hooked_step s hc
      rcases hstep : s.step c with ⟨answer, t⟩
      rw [hstep] at h hkept
      cases h with
      | empty => exact ⟨s.access.gate.permits, rfl⟩
      | refused n e => exact ⟨n, rfl⟩
      | queued | crashed | blocked => rcases hkept with hanswer | ⟨e, hanswer⟩ <;> cases hanswer
  · intro s turns hindex hready hwaiting hcommands key hmem
    have hstart : s.HoldsOnly fun id _ => id ≠ "" := by
      refine ⟨fun key id hid hempty => hindex key (hempty ▸ hid), ?_, ?_⟩
      · simp [hready]
      · simp [hwaiting]
    exact (holdsOnly_course (fun id hid _ => hid) hstart hcommands).index key "" hmem rfl

/-- Somebody without an id is stored, created, edited and deleted beside Anna, who is filed under one key at a time
meanwhile. -/
def withoutId : List Turn :=
  [.command (.created { id := "e1", name := "Anna", surname := "Orlova" }), .unbatch 0,
    .command (.insert { id := "", name := "Vera", surname := "Orlova" }),
    .command (.created { id := "", name := "Vera", surname := "Orlova" }), .job 0,
    .command (.edited "" { team := some "Core" }), .command (.deleted ""), .job 0, .job 0]

/-- Only Anna gets into the rows, and she stays there when her values cannot be read for her deletion. -/
theorem hooks_submit_or_keep_withoutId :
    let s := course {} withoutId
    let t : Service := { s with access.faults.failing := [(.values, .database "closed")] }
    s.index.toRows = [⟨"anna", ["e1"]⟩, ⟨"orlova", ["e1"]⟩] ∧ (∀ key, "" ∉ s.index.idsAt key) ∧
      (t.step (.deleted "e1")).1 = .error (.index (.store (.database "closed"))) ∧
      ∃ n, (t.step (.deleted "e1")).2 = t.withPermits n := by
  intro s t
  have hrows : s.index.toRows = [⟨"anna", ["e1"]⟩, ⟨"orlova", ["e1"]⟩] := by decide +kernel
  have hcommands : ∀ c, .command c ∈ withoutId → c.FilesOnly fun id _ => id ≠ "" := by
    simp [withoutId, Command.FilesOnly]
  have hfails : (t.step (.deleted "e1")).1 = .error (.index (.store (.database "closed"))) := rfl
  exact ⟨hrows, hooks_submit_or_keep.2 {} withoutId (fun _ => List.not_mem_nil) rfl rfl hcommands, hfails,
    (hooks_submit_or_keep.1 t (.deleted "e1") "e1" rfl).2.2.1 (.inr ⟨_, hfails⟩)⟩

end Service

end StaffIndex
