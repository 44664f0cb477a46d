import StaffIndex.Proofs.Change.Complete

/-!
# Tasks that are overtaken

The hook of an edit only queues a task, and it is the task that looks up the old values, when it runs. A caller who
writes the record before that overtakes the task (`Change.overtaking`): the task finds the new values where it wants the
old ones, takes out their keys, and files them again (`stores_overtaking`).

- Both ways write the same record, and an overtaken task leaves the employee under the keys that it has given up
  (`mem_idsAt_overtaking`).
- Both lead to the same index just if of the keys that the employee had the changed fields give none up and take none up
  (`index_overtaking_iff`).
- Here the task does nothing until the service settles. What all other schedules come to is in `Proofs.Change.Race`.
-/

namespace StaffIndex

/-- The employees are filed under their keys and under no others. -/
def Mirrors (s : Stores) : Prop :=
  ∀ key id, id ∈ s.index.idsAt key ↔ ∃ e, s.staff.find? id = some e ∧ e.HasKey key

theorem Complete.mirrors {s : Stores} (h : Complete s) (hc : Current s) : Mirrors s :=
  fun key id => ⟨hc.current key id, fun ⟨e, he, hk⟩ => h id e he key hk⟩

/-- The calls of an edit by a caller who does not wait for the task before writing the record. -/
def Change.overtaking (id : EmployeeId) (p : Patch) : List Command := [.edited id p, .update id p, .settle]

/-! ## Rows -/

namespace Index

/-- What is taken out before the same keys are filed matters only where the id is. -/
theorem append_remove_eq_iff {index : Index} {id : EmployeeId} {old old' keys : List String} :
    (index.remove id old).append id keys = (index.remove id old').append id keys ↔
      ∀ key, id ∈ index.idsAt key → (key ∈ old ↔ key ∈ old') := by
  have hrow (key : String) : ((index.remove id old).append id keys).idsAt key =
      ((index.remove id old').append id keys).idsAt key ↔ (id ∈ index.idsAt key → (key ∈ old ↔ key ∈ old')) := by
    rw [idsAt_append, idsAt_append, List.append_left_inj, idsAt_remove, idsAt_remove]
    by_cases ho : key ∈ old <;> by_cases hn : key ∈ old'
    · simp [ho, hn]
    · simp only [ho, hn, if_true, if_false, filter_idsAt_eq_iff, iff_false, not_true, imp_false]
    · rw [eq_comm]
      simp only [ho, hn, if_true, if_false, filter_idsAt_eq_iff, false_iff, not_true, imp_false]
    · simp [ho, hn]
  exact ⟨fun h key => (hrow key).1 (by rw [h]), fun h => ext fun key => (hrow key).2 (h key)⟩

end Index

namespace Service

variable {s : Service} {id : EmployeeId} {e : Employee}

/-! ## Both orders -/

theorem setStaff_employeeEdited (s : Service) (id : EmployeeId) (p : Patch) (staff : Staff) :
    (s.employeeEdited id p).2.setStaff staff = ((s.setStaff staff).employeeEdited id p).2 := by
  unfold employeeEdited
  rcases Indexing.edited id p with _ | _ | task
  · rfl
  · rfl
  · exact setStaff_submit s task staff

theorem staff_employeeEdited (s : Service) (id : EmployeeId) (p : Patch) :
    (s.employeeEdited id p).2.staff = s.staff := by
  unfold employeeEdited
  rcases Indexing.edited id p with _ | _ | task
  · rfl
  · rfl
  · exact staff_submit s task

/-- An overtaken task runs as if the hook had been called after the write. -/
theorem run_overtaking (he : s.staff.find? id = some e) (p : Patch) : (s.run (Change.overtaking id p)).2 =
    ((s.setStaff ⟨s.staff.records.insert id (p.apply e)⟩).employeeEdited id p).2.settle := by
  have hu : (s.employeeEdited id p).2.staff.update id p = .ok ⟨s.staff.records.insert id (p.apply e)⟩ := by
    rw [staff_employeeEdited]
    exact Staff.update_of_find? he p
  simp only [Change.overtaking, run, step, hu]
  rw [setStaff_employeeEdited]

/-- It takes out the keys that it files. -/
theorem stores_overtaking (hs : s.Idle) (h : id ≠ "") (he : s.staff.find? id = some e) (p : Patch) :
    (s.run (Change.overtaking id p)).2.stores =
      { index := (s.stores.index.remove id (Key.ofValues p.values)).append id (Key.ofValues p.values)
        staff := ⟨s.stores.staff.records.insert id (p.apply e)⟩ } := by
  have hfound : (s.setStaff ⟨s.staff.records.insert id (p.apply e)⟩).staff.find? id = some (p.apply e) :=
    SortedMap.find?_insert.trans (if_pos rfl)
  obtain ⟨queue, hq⟩ := settle_employeeEdited (s := s.setStaff _) (hs.setStores _) h hfound p
  rw [run_overtaking he, hq, Patch.valuesOf_apply]
  rfl

theorem stores_waiting (hs : s.Idle) (h : id ≠ "") (he : s.staff.find? id = some e) (p : Patch) :
    (s.make (.edit id p)).stores =
      { index := (s.stores.index.remove id (Key.ofValues (e.valuesOf p.changedFields))).append id (Key.ofValues p.values)
        staff := ⟨s.stores.staff.records.insert id (p.apply e)⟩ } := by
  rw [stores_make hs (c := .edit id p) ⟨h, e, he⟩]
  simp only [Change.effect, show s.stores.staff.find? id = some e from he]

/-- Without an id there is no task to overtake. -/
theorem stores_overtaking_empty (hs : s.Idle) (he : s.staff.find? "" = some e) (p : Patch) :
    (s.run (Change.overtaking "" p)).2.stores = (s.make (.edit "" p)).stores := by
  have hhook (s : Service) : (s.employeeEdited "" p).2 = s := rfl
  have hu : s.staff.update "" p = .ok ⟨s.staff.records.insert "" (p.apply e)⟩ := Staff.update_of_find? he p
  have hw : (s.setStaff ⟨s.staff.records.insert "" (p.apply e)⟩).Idle := hs.setStores _
  rw [run_overtaking he, hhook, settle_of_idle hw]
  simp only [make, Change.commands, run, step, hhook, settle_of_idle hs, hu]

/-! ## What it comes to -/

/-- The keys that the changed fields give up are those where only an overtaken task leaves the employee. -/
theorem mem_idsAt_overtaking (hs : s.Idle) (hm : Mirrors s.stores) (h : id ≠ "") (he : s.staff.find? id = some e)
    (p : Patch) (key : String) (k : EmployeeId) : k ∈ (s.run (Change.overtaking id p)).2.stores.index.idsAt key ↔
      k ∈ (s.make (.edit id p)).stores.index.idsAt key ∨
        k = id ∧ key ∈ Key.ofValues (e.valuesOf p.changedFields) ∧ key ∉ Key.ofValues p.values := by
  have hold : key ∈ Key.ofValues (e.valuesOf p.changedFields) → id ∈ s.stores.index.idsAt key := fun ho =>
    (hm key id).2 ⟨e, he, Patch.hasKey_iff_changed_or_kept.2 (.inl ho)⟩
  rw [stores_overtaking hs h he, stores_waiting hs h he]
  simp only [Index.mem_idsAt_append, Index.mem_idsAt_remove]
  by_cases hk : k = id
  · subst hk
    grind
  · simp [hk]

theorem index_overtaking_eq_iff (hs : s.Idle) (hm : Mirrors s.stores) (h : id ≠ "") (he : s.staff.find? id = some e)
    (p : Patch) : (s.run (Change.overtaking id p)).2.stores.index = (s.make (.edit id p)).stores.index ↔
      ∀ key, e.HasKey key → (key ∈ Key.ofValues (e.valuesOf p.changedFields) ↔ key ∈ Key.ofValues p.values) := by
  rw [stores_overtaking hs h he, stores_waiting hs h he, eq_comm, Index.append_remove_eq_iff]
  refine forall_congr' fun key => imp_congr_left ?_
  rw [hm key id]
  constructor
  · rintro ⟨e', he', hk⟩
    cases he.symm.trans he'
    exact hk
  · exact fun hk => ⟨e, he, hk⟩

/-- Where the index mirrors the staff, a caller who writes the record before the task has run leaves the same records as
one who waits for the task, and leaves the employee under the keys that it gives up besides. -/
theorem index_overtaking_iff (hs : s.Idle) (hm : Mirrors s.stores) (he : s.staff.find? id = some e) (p : Patch) :
    ((s.run (Change.overtaking id p)).2.index = (s.make (.edit id p)).index ↔ id = "" ∨ ∀ key, e.HasKey key →
      (key ∈ Key.ofValues (e.valuesOf p.changedFields) ↔ key ∈ Key.ofValues p.values)) ∧
    (s.run (Change.overtaking id p)).2.staff = (s.make (.edit id p)).staff ∧
    (id ≠ "" → ∀ key k, k ∈ (s.run (Change.overtaking id p)).2.index.idsAt key ↔
      k ∈ (s.make (.edit id p)).index.idsAt key ∨
        k = id ∧ key ∈ Key.ofValues (e.valuesOf p.changedFields) ∧ key ∉ Key.ofValues p.values) := by
  by_cases h : id = ""
  · subst h
    have hstores := stores_overtaking_empty hs he p
    exact ⟨iff_of_true (congrArg Stores.index hstores) (.inl rfl), congrArg Stores.staff hstores, fun hne => absurd rfl hne⟩
  · have hstaff : (s.run (Change.overtaking id p)).2.stores.staff = (s.make (.edit id p)).stores.staff := by
      rw [stores_overtaking hs h he, stores_waiting hs h he]
    refine ⟨?_, hstaff, fun _ => mem_idsAt_overtaking hs hm h he p⟩
    rw [or_iff_right h]
    exact index_overtaking_eq_iff hs hm h he p

def anna : Employee := { id := "e1", name := "Anna", surname := "Orlova", team := some "Core" }

/-- Anna is stored and indexed. -/
def withAnna : Service := make {} (.create anna)

theorem withAnna_idle_mirrors : withAnna.Idle ∧ Mirrors withAnna.stores := by
  have allowed : (Change.create anna).Allowed (Service.staff {}) := by decide +kernel
  have stores : withAnna.stores = Change.effect .empty (.create anna) := stores_make (idle_new {}) allowed
  refine ⟨(idle_new {}).make allowed, ?_⟩
  rw [stores]
  exact (Complete.empty.create anna).mirrors (Current.empty.effect allowed)

/-- Anna's move to another team leaves her in the row of the old one if the task is overtaken, and only then. -/
theorem not_index_overtaking_eq : ¬ ∀ (s : Service) (id : EmployeeId) (e : Employee) (p : Patch), s.Idle →
    Mirrors s.stores → s.staff.find? id = some e →
      (s.run (Change.overtaking id p)).2.index = (s.make (.edit id p)).index := by
  intro h
  have heq := h withAnna "e1" anna { team := some "Sales" } withAnna_idle_mirrors.1 withAnna_idle_mirrors.2
    (by decide +kernel)
  have hrow := congrArg (Index.idsAt · "core") heq
  revert hrow
  decide +kernel

end Service

end StaffIndex
