import StaffIndex.Proofs.Change.History
import StaffIndex.Proofs.Employee.Keys
import StaffIndex.Proofs.Indexing.Filing
import StaffIndex.Proofs.Indexing.Rows
import StaffIndex.Proofs.Service.Schedule

/-!
# Seeding

A seed stores the records of its file one after the other and queues an add for each that has an id (`foldl_seedOne`).

- Of several records with one id the last one is stored (`Staff.find?_foldl_insert`), but all of them are filed
  (`exists_performAll_seedTasks`).
- So an id is under the keys of the stored record and under no others just if the records before had no key that this
  one lacks (`rows_of_seeded`). In which order the tasks are carried out does not matter, as all of them are adds.
-/

namespace StaffIndex

/-- The adds that a seed queues, in the order of the records. -/
def seedTasks (employees : List Employee) : List Task :=
  (employees.filter fun e => e.id ≠ "").map fun e => .add e.id e.indexableValues

variable {employees : List Employee} {id : EmployeeId} {key : String}

theorem seedTasks_cons_of_eq {e : Employee} (h : e.id = "") : seedTasks (e :: employees) = seedTasks employees := by
  simp [seedTasks, h]

theorem seedTasks_cons_of_ne {e : Employee} (h : e.id ≠ "") :
    seedTasks (e :: employees) = .add e.id e.indexableValues :: seedTasks employees := by
  simp [seedTasks, h]

theorem eq_add_of_mem_seedTasks {task : Task} (h : task ∈ seedTasks employees) : ∃ id values, task = .add id values := by
  obtain ⟨e, -, rfl⟩ := List.mem_map.1 h
  exact ⟨_, _, rfl⟩

/-! ## Records -/

/-- Of the records with an id the last one is stored. -/
theorem Staff.find?_foldl_insert (staff : Staff) (employees : List Employee) (id : EmployeeId) :
    (employees.foldl Staff.insert staff).find? id = (employees.filter (·.id = id)).getLast?.or (staff.find? id) := by
  induction employees using List.reverseRecOn with
  | nil => rfl
  | append_singleton employees e ih =>
    rw [List.foldl_concat, Staff.find?_insert, ih, List.filter_append]
    by_cases h : e.id = id
    · simp [h]
    · simp [h, Ne.symm h]

/-! ## Rows -/

/-- The records that are filed under the key. -/
def filedUnder (key : String) (employees : List Employee) : List Employee :=
  employees.filter fun e => e.id ≠ "" ∧ key ∈ Key.ofValues e.indexableValues

theorem exists_performAll_seedTasks (s : Stores) (employees : List Employee) : ∃ index,
    Indexing.performAll s (seedTasks employees) = ((seedTasks employees).map fun _ => .ok (), ⟨index, s.staff⟩) ∧
      ∀ key, index.idsAt key = s.index.idsAt key ++ (filedUnder key employees).map (·.id) := by
  induction employees generalizing s with
  | nil => exact ⟨s.index, rfl, fun key => (List.append_nil _).symm⟩
  | cons e employees ih =>
    by_cases h : e.id = ""
    · obtain ⟨index, hperform, hrows⟩ := ih s
      refine ⟨index, (seedTasks_cons_of_eq h).symm ▸ hperform, fun key => ?_⟩
      rw [hrows, filedUnder, filedUnder, List.filter_cons_of_neg (by simp [h])]
    · obtain ⟨index, hperform, hrows⟩ := ih ⟨s.index.append e.id (Key.ofValues e.indexableValues), s.staff⟩
      refine ⟨index, ?_, fun key => ?_⟩
      · rw [seedTasks_cons_of_ne h, Indexing.performAll, Indexing.perform, Indexing.run_add]
        simp only [hperform, List.map_cons]
      · rw [hrows, Index.idsAt_append_of_nodup _ _ (Key.nodup_ofValues _), List.append_assoc, filedUnder, filedUnder]
        by_cases hkey : key ∈ Key.ofValues e.indexableValues
        · rw [if_pos hkey, List.filter_cons_of_pos (by simp [h, hkey])]
          rfl
        · rw [if_neg hkey, List.filter_cons_of_neg (by simp [hkey])]
          rfl

theorem countP_isOk_ok (tasks : List Task) :
    (tasks.map fun _ => (.ok () : Except IndexError Unit)).countP (·.isOk) = tasks.length := by
  rw [List.countP_map]
  exact List.countP_eq_length.2 fun _ _ => rfl

theorem countP_not_isOk_ok (tasks : List Task) :
    (tasks.map fun _ => (.ok () : Except IndexError Unit)).countP (!·.isOk) = 0 := by
  rw [List.countP_map]
  exact List.countP_eq_zero.2 fun _ _ => Bool.false_ne_true

theorem mem_map_id_filedUnder (hid : id ≠ "") :
    id ∈ (filedUnder key employees).map (·.id) ↔ ∃ e ∈ employees, e.id = id ∧ e.HasKey key := by
  simp only [filedUnder, List.mem_map, List.mem_filter, decide_eq_true_eq, ← Employee.hasKey_iff_mem]
  constructor
  · rintro ⟨e, ⟨he, -, hkey⟩, rfl⟩
    exact ⟨e, he, rfl, hkey⟩
  · rintro ⟨e, he, rfl, hkey⟩
    exact ⟨e, ⟨he, hid, hkey⟩, rfl⟩

namespace Service

variable {s : Service}

/-! ## Seeding -/

theorem seedOne_of_ne (s : Service) {e : Employee} (h : e.id ≠ "") :
    s.seedOne e = (s.submit (.add e.id e.indexableValues)).setStaff (s.staff.insert e) := by
  rw [seedOne, employeeCreated, Indexing.created_of_ne h, setStaff_submit]
  rfl

theorem seedOne_of_eq (s : Service) {e : Employee} (h : e.id = "") : s.seedOne e = s.setStaff (s.staff.insert e) := by
  rw [seedOne, employeeCreated, Indexing.created_of_eq h]

/-- What a seed stores and what it queues do not meet. -/
theorem foldl_seedOne (s : Service) (employees : List Employee) : employees.foldl seedOne s =
    (seedTasks employees).foldl submit (s.setStaff (employees.foldl Staff.insert s.staff)) := by
  induction employees generalizing s with
  | nil => rfl
  | cons e employees ih =>
    by_cases h : e.id = ""
    · rw [List.foldl_cons, ih, seedOne_of_eq s h, seedTasks_cons_of_eq h]
      rfl
    · rw [List.foldl_cons, ih, seedOne_of_ne s h, seedTasks_cons_of_ne h, List.foldl_cons, ← setStaff_submit]
      rfl

/-- A seeded service that has settled: the last record of each id is stored, and all records are filed. -/
theorem settle_foldl_seedOne (hs : s.Idle) (employees : List Employee) : ∃ index queue,
    (employees.foldl seedOne s).settle =
      { s.setStores ⟨index, employees.foldl Staff.insert s.staff⟩ with queue } ∧
    (∀ key, index.idsAt key = s.index.idsAt key ++ (filedUnder key employees).map (·.id)) ∧
    queue.inFlight = s.queue.inFlight ∧ queue.completed = s.queue.completed + (seedTasks employees).length ∧
      queue.failed = s.queue.failed := by
  have ht : (s.setStaff (employees.foldl Staff.insert s.staff)).Idle := hs.setStores ⟨s.index, _⟩
  obtain ⟨index, hperform, hrows⟩ := exists_performAll_seedTasks (stores (s.setStaff _)) employees
  obtain ⟨queue, hsettle, hin, hcompleted, hfailed⟩ := settle_foldl_submit ht (seedTasks employees)
  rw [hperform] at hsettle hcompleted hfailed
  rw [countP_isOk_ok] at hcompleted
  rw [countP_not_isOk_ok] at hfailed
  refine ⟨index, queue, ?_, hrows, hin, hcompleted, hfailed⟩
  rw [foldl_seedOne, hsettle]
  rfl

/-- Let an id be under the keys of all its records, and the last of them be stored. Then it is under the keys of the
stored record and no others just if this one has all keys of the others. -/
theorem mirrors_iff_of_mem {index : Index} {staff : Staff}
    (hstored : staff.find? id = (employees.filter (·.id = id)).getLast?)
    (hmem : ∀ key, id ∈ index.idsAt key ↔ ∃ e ∈ employees, e.id = id ∧ e.HasKey key) :
    (∀ key, id ∈ index.idsAt key ↔ ∃ e, staff.find? id = some e ∧ e.HasKey key) ↔
      ∀ e ∈ employees, e.id = id → ∀ stored, staff.find? id = some stored →
        ∀ key, e.HasKey key → stored.HasKey key := by
  constructor
  · intro h e he hid stored hs key hkey
    obtain ⟨stored', hs', hkey'⟩ := (h key).1 ((hmem key).2 ⟨e, he, hid, hkey⟩)
    cases hs.symm.trans hs'
    exact hkey'
  · intro h key
    rw [hmem key]
    constructor
    · rintro ⟨e, he, hid, hkey⟩
      have hne : employees.filter (·.id = id) ≠ [] := List.ne_nil_of_mem (List.mem_filter.2 ⟨he, by simpa using hid⟩)
      obtain ⟨stored, hs⟩ : ∃ stored, staff.find? id = some stored :=
        ⟨_, hstored.trans (List.getLast?_eq_some_getLast hne)⟩
      exact ⟨stored, hs, h e he hid stored hs key hkey⟩
    · rintro ⟨stored, hs, hkey⟩
      obtain ⟨he, hid⟩ := List.mem_filter.1 (List.mem_of_getLast? (hstored.symm.trans hs))
      exact ⟨stored, he, by simpa using hid, hkey⟩

/-- **Seeding.** A new service that is seeded with a list of employees and settles has the last record of each id, and
under each key the ids of all records with the key. So it has an id under the keys of the stored record and no others
just if every key of another record with the id is also a key of this one. In whatever way the tasks are interleaved,
with each other and with the writing of the records, the rows have the same ids. -/
theorem rows_of_seeded (settings : Search.Settings) (path : String) {text : String}
    (h : (Json.Reader.list Employee.reader).whole text = .ok employees) :
    ∃ stats t, run { settings } [.seed path (.ok text), .settle] = ([.done, .settled true stats], t) ∧
      stats.completed = (seedTasks employees).length ∧ stats.failed = 0 ∧
      (∀ id, t.staff.find? id = (employees.filter (·.id = id)).getLast?) ∧
      (∀ id, id ≠ "" → ∀ key, id ∈ t.index.idsAt key ↔ ∃ e ∈ employees, e.id = id ∧ e.HasKey key) ∧
      (∀ id, id ≠ "" → ((∀ key, id ∈ t.index.idsAt key ↔ ∃ e, t.staff.find? id = some e ∧ e.HasKey key) ↔
        ∀ e ∈ employees, e.id = id → ∀ stored, t.staff.find? id = some stored →
          ∀ key, e.HasKey key → stored.HasKey key)) ∧
      ∀ edited u, Relation.ReflTransGen (Indexing.Step edited) ⟨.empty, {}, seedTasks employees, 0⟩ u → u.Ended →
        ∀ key, (u.stores.index.idsAt key).Perm (t.index.idsAt key) := by
  obtain ⟨index, queue, hsettle, hrows, hin, hcompleted, hfailed⟩ := settle_foldl_seedOne (idle_new settings) employees
  have hindex (key : String) : index.idsAt key = (filedUnder key employees).map (·.id) := hrows key
  have hmem (id : EmployeeId) (hid : id ≠ "") (key : String) :
      id ∈ index.idsAt key ↔ ∃ e ∈ employees, e.id = id ∧ e.HasKey key := by
    rw [hindex, mem_map_id_filedUnder hid]
  have hstored (id : EmployeeId) : (employees.foldl Staff.insert .empty).find? id =
      (employees.filter (·.id = id)).getLast? := by
    rw [Staff.find?_foldl_insert, Staff.find?_empty, Option.or_none]
  refine ⟨queue.stats, { setStores { settings } ⟨index, employees.foldl Staff.insert .empty⟩ with queue }, ?_,
    hcompleted.trans (Nat.zero_add _), hfailed, hstored, hmem, fun id hid => ?_, fun edited u hsteps hended key => ?_⟩
  · have hidle : (queue.inFlight == 0) = true := by
      rw [hin]
      rfl
    simp only [run, step, seed, h, hsettle, hidle]
    rfl
  · exact mirrors_iff_of_mem (hstored id) (hmem id hid)
  · obtain ⟨serial, hperform, hserial⟩ := exists_performAll_seedTasks .empty employees
    have hrow := (Indexing.asIfSerial_of_adds (fun _ => eq_add_of_mem_seedTasks) hsteps hended (.refl _)).rows key
    rw [hperform] at hrow
    exact hrow.trans (List.Perm.of_eq ((hserial key).trans (hindex key).symm))

/-- Two records with one id, and one without. -/
def sharedId : String :=
  "[\x7b\"id\":\"e1\",\"name\":\"Anna\",\"surname\":\"Orlova\"\x7d," ++
    "\x7b\"id\":\"\",\"name\":\"Vera\",\"surname\":\"Orlova\"\x7d," ++
    "\x7b\"id\":\"e1\",\"name\":\"Boris\",\"surname\":\"Orlova\"\x7d]"

def sharedIdRecords : List Employee :=
  [{ id := "e1", name := "Anna", surname := "Orlova" }, { id := "", name := "Vera", surname := "Orlova" },
    { id := "e1", name := "Boris", surname := "Orlova" }]

theorem whole_sharedId : (Json.Reader.list Employee.reader).whole sharedId = .ok sharedIdRecords := by
  have hread : ((Json.Reader.list Employee.reader).whole sharedId).toOption = some sharedIdRecords := by decide +kernel
  cases h : (Json.Reader.list Employee.reader).whole sharedId with
  | error e =>
    rw [h] at hread
    cases hread
  | ok employees =>
    rw [h] at hread
    exact congrArg Except.ok (Option.some.inj hread)

/-- Boris is stored, and the name of Anna, whose record he has replaced, is under his id too. -/
theorem rows_of_seeded_sharedId : ∃ stats t,
    run {} [.seed "staff.json" (.ok sharedId), .settle] = ([.done, .settled true stats], t) ∧ stats.completed = 2 ∧
      t.staff.find? "e1" = some { id := "e1", name := "Boris", surname := "Orlova" } ∧
      "e1" ∈ t.index.idsAt "anna" ∧ "e1" ∈ t.index.idsAt "boris" := by
  obtain ⟨stats, t, hrun, hcompleted, -, hstored, hmem, -, -⟩ := rows_of_seeded {} "staff.json" whole_sharedId
  have hfiled (key : String) (h : ∃ e ∈ sharedIdRecords, e.id = "e1" ∧ key ∈ Key.ofValues e.indexableValues) :
      "e1" ∈ t.index.idsAt key := by
    simp only [← Employee.hasKey_iff_mem] at h
    exact (hmem "e1" (by decide) key).2 h
  exact ⟨stats, t, hrun, hcompleted.trans (by decide), (hstored "e1").trans (by decide),
    hfiled "anna" (by decide +kernel), hfiled "boris" (by decide +kernel)⟩

/-- A record that was replaced stays in the rows. -/
theorem not_seeded_mirrors : ¬ ∀ (settings : Search.Settings) (path text : String) (employees : List Employee),
    (Json.Reader.list Employee.reader).whole text = .ok employees → ∀ id, id ≠ "" → ∀ key,
      (id ∈ (run { settings } [.seed path (.ok text), .settle]).2.index.idsAt key ↔
        ∃ e, (run { settings } [.seed path (.ok text), .settle]).2.staff.find? id = some e ∧ e.HasKey key) := by
  intro h
  have hrow := h {} "staff.json" sharedId sharedIdRecords whole_sharedId "e1" (by decide) "anna"
  have hstored : (run {} [.seed "staff.json" (.ok sharedId), .settle]).2.staff.find? "e1" =
      some { id := "e1", name := "Boris", surname := "Orlova" } := by decide +kernel
  obtain ⟨e, he, hkey⟩ := hrow.1 (by decide +kernel)
  rw [hstored] at he
  cases he
  rw [Employee.hasKey_iff_mem] at hkey
  exact absurd hkey (by decide +kernel)

end Service

end StaffIndex
