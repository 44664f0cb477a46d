import StaffIndex.Proofs.Json.Lists
import StaffIndex.Proofs.Json.RoundTrip
import StaffIndex.Proofs.Service.Seeding

/-!
# Seed files

A seed file is taken as a whole or not at all (`seed_refused_or_taken`). A text that does not hold a list of employees,
be it only for its last record (`seed_of_failed`), leaves the service as it was. Otherwise all records of the list are
stored and an add is queued for each that has an id (`Seeded`). In which order the adds file the ids is up to the
scheduler (`not_seeded_in_order`). Every list of employees has a seed file, namely what is written of it
(`holdsList_written`).
-/

namespace StaffIndex

open Json (Symbol dropBlanks)

variable {employees : List Employee} {text : String}

/-! ## Files -/

/-- No employee is read where a text ends or a list does. -/
theorem Employee.needsValue_reader : reader.NeedsValue := Json.Reader.needsValue_record shape

theorem holdsList_iff : (Json.Reader.list Employee.reader).whole text = .ok employees ↔
    Employee.reader.HoldsList text employees :=
  Json.Reader.whole_list_eq_ok_iff Employee.needsValue_reader

theorem holdsList_written (employees : List Employee) :
    Employee.reader.HoldsList (String.ofList (Json.Written.list (employees.map Employee.written))) employees :=
  holdsList_iff.1 (Json.Reader.reads_list Employee.reads_written employees).whole

namespace Service

variable {s t : Service}

/-! ## What a seed does -/

/-- What becomes of a service by a seed that is not refused. -/
structure Seeded (s : Service) (employees : List Employee) (t : Service) : Prop where
  /-- Of several records with one id the last one is stored, and all other employees are left alone. -/
  stored : ∀ id, t.staff.find? id = (employees.filter (·.id = id)).getLast?.or (s.staff.find? id)
  /-- Apart from that, an add is queued for each record with an id, in the order of the records. -/
  queued : t = (seedTasks employees).foldl submit (s.setStaff t.staff)
  unindexed : t.index = s.index
  /-- Carried out one after the other, as when the service settles and nothing else is under way, the adds file the ids
  in the order of the records. -/
  settled : s.Idle → ∃ index queue, t.settle = { s.setStores ⟨index, t.staff⟩ with queue } ∧
    (∀ key, index.idsAt key = s.index.idsAt key ++ (filedUnder key employees).map (·.id)) ∧
    queue.inFlight = s.queue.inFlight ∧ queue.completed = s.queue.completed + (seedTasks employees).length ∧
      queue.failed = s.queue.failed
  /-- In whatever way they are carried out, their ids come behind those of the row, each as often. -/
  interleaved : ∀ edited u,
    Relation.ReflTransGen (Indexing.Step edited) ⟨s.stores, s.queue, seedTasks employees, 0⟩ u → u.Ended →
      (∀ key, ∃ ids, u.stores.index.idsAt key = s.index.idsAt key ++ ids ∧
        ids.Perm ((filedUnder key employees).map (·.id))) ∧
      u.queue.completed = s.queue.completed + (seedTasks employees).length ∧ u.queue.failed = s.queue.failed
  /-- On a service that is stopped they are dropped, and have failed. -/
  dropped : s.stopped = true → ∃ queue, t = { s.setStaff t.staff with queue } ∧
    queue.inFlight = s.queue.inFlight ∧ queue.completed = s.queue.completed ∧
      queue.failed = s.queue.failed + (seedTasks employees).length

theorem access_foldl_submit (s : Service) (tasks : List Task) : (tasks.foldl submit s).access = s.access := by
  induction tasks generalizing s with
  | nil => rfl
  | cons task tasks ih =>
    rw [List.foldl_cons, ih, submit]
    split <;> rfl

theorem seeded_foldl_seedOne (s : Service) (employees : List Employee) :
    s.Seeded employees (employees.foldl seedOne s) := by
  have haccess : (employees.foldl seedOne s).access = (s.setStaff (employees.foldl Staff.insert s.staff)).access := by
    rw [foldl_seedOne, access_foldl_submit]
  have hstaff : (employees.foldl seedOne s).staff = employees.foldl Staff.insert s.staff :=
    congrArg (·.stores.staff) haccess
  constructor
  case stored =>
    intro id
    rw [hstaff, Staff.find?_foldl_insert]
  case queued =>
    rw [hstaff]
    exact foldl_seedOne s employees
  case unindexed => exact congrArg (·.stores.index) haccess
  case settled =>
    intro hs
    rw [hstaff]
    exact settle_foldl_seedOne hs employees
  case interleaved =>
    intro edited u hsteps hended
    obtain ⟨serial, hperform, hrows⟩ := exists_performAll_seedTasks s.stores employees
    have hserial := Indexing.asIfSerial_of_adds (fun _ => eq_add_of_mem_seedTasks) hsteps hended (.refl _)
    refine ⟨fun key => ?_, hserial.completed.trans ?_, hserial.failed.trans ?_⟩
    · obtain ⟨ids, hids⟩ := Indexing.isPrefix_of_adds (fun _ => eq_add_of_mem_seedTasks) hsteps key
      have hrow := hserial.rows key
      rw [hperform, ← hids, hrows key] at hrow
      exact ⟨ids, hids.symm, (List.perm_append_left_iff _).1 hrow⟩
    · rw [hperform, countP_isOk_ok]
    · rw [hperform, countP_not_isOk_ok]
      rfl
  case dropped =>
    intro hstopped
    rw [hstaff]
    obtain ⟨queue, hqueue, hcounts⟩ := foldl_submit_of_stopped (s := s.setStaff (employees.foldl Staff.insert s.staff))
      hstopped (seedTasks employees)
    exact ⟨queue, (foldl_seedOne s employees).trans hqueue, hcounts⟩

theorem step_seed_of_holdsList (s : Service) (path : String) (h : Employee.reader.HoldsList text employees) :
    s.step (.seed path (.ok text)) = (.done, employees.foldl seedOne s) := by
  simp only [step, seed, holdsList_iff.2 h]

theorem run_seed_settle (path : String) (h : Employee.reader.HoldsList text employees) :
    (s.run [.seed path (.ok text), .settle]).2 = (employees.foldl seedOne s).settle := by
  simp only [run, step_seed_of_holdsList s path h]
  rfl

/-! ## Refused files -/

theorem seed_of_error (s : Service) (path : String) {e : Json.Error}
    (h : (Json.Reader.list Employee.reader).whole text = .error e) :
    s.step (.seed path (.ok text)) = (.error (.seed (.malformed path e)), s) := by
  simp only [step, seed, h]

/-- A record that cannot be read is what the whole file is refused for, however many were read before it. -/
theorem seed_of_failed (s : Service) (path : String) {symbols t u : List Symbol} {d : Symbol} {e : Json.Error}
    (hopen : dropBlanks (Symbol.ofString text) = .char '[' :: symbols)
    (h : Employee.reader.Elements symbols employees t) (hstart : Json.StartsElement employees.length t (d :: u))
    (hd : d.isChar ']' = false) (hfail : Employee.reader.run (d :: u) = .error e) :
    s.step (.seed path (.ok text)) =
      (.error (.seed (.malformed path { e with path := .element employees.length :: e.path })), s) :=
  seed_of_error s path (Json.Reader.whole_list_of_failed Employee.needsValue_reader hopen h hstart hd hfail)

/-- **A seed is all or nothing.** A file that holds a list of employees is taken for all of them, and every other file
is refused and leaves the service as it was. -/
theorem seed_refused_or_taken (s : Service) (path text : String) :
    ((¬ ∃ employees, Employee.reader.HoldsList text employees) →
      ∃ e, s.step (.seed path (.ok text)) = (.error (.seed (.malformed path e)), s)) ∧
    ∀ employees, Employee.reader.HoldsList text employees →
      ∃ t, s.step (.seed path (.ok text)) = (.done, t) ∧ s.Seeded employees t := by
  constructor
  · intro hnone
    cases h : (Json.Reader.list Employee.reader).whole text with
    | ok employees => exact absurd ⟨employees, holdsList_iff.1 h⟩ hnone
    | error e => exact ⟨e, seed_of_error s path h⟩
  · exact fun employees h =>
      ⟨employees.foldl seedOne s, step_seed_of_holdsList s path h, seeded_foldl_seedOne s employees⟩

/-- Anna and Boris share a surname. -/
def orlovas : List Employee :=
  [{ id := "e1", name := "Anna", surname := "Orlova" }, { id := "e2", name := "Boris", surname := "Orlova" }]

/-- Boris is filed first. -/
theorem exists_steps_borisFirst : ∃ u,
    Relation.ReflTransGen (Indexing.Step fun _ => True) ⟨.empty, {}, seedTasks orlovas, 0⟩ u ∧ u.Ended ∧
      u.stores.index.idsAt "orlova" = ["e2", "e1"] := by
  have htasks : seedTasks orlovas = [.add "e1" ["Anna", "Orlova"], .add "e2" ["Boris", "Orlova"]] := by decide
  rw [htasks]
  refine ⟨_, .head (.submit .empty {} (.add "e1" ["Anna", "Orlova"]) {.add "e2" ["Boris", "Orlova"]} 0)
    (.head (.submit _ _ (.add "e2" ["Boris", "Orlova"]) 0 _) ((Indexing.steps_run ..).trans (Indexing.steps_run ..))),
    ⟨rfl, rfl⟩, ?_⟩
  decide +kernel

/-- Adds that are carried out in another order file the ids in that order, and adds that are dropped file none. -/
theorem not_seeded_in_order :
    (¬ ∀ (s : Service) (employees : List Employee) (u : Indexing.Underway), s.Idle →
      Relation.ReflTransGen (Indexing.Step fun _ => True) ⟨s.stores, s.queue, seedTasks employees, 0⟩ u → u.Ended →
        ∀ key, u.stores.index.idsAt key = s.index.idsAt key ++ (filedUnder key employees).map (·.id)) ∧
    ¬ ∀ (s : Service) (employees : List Employee) (path text : String), s.access.Open → s.queue.inFlight = 0 →
      s.ready = [] → s.waiting = [] → Employee.reader.HoldsList text employees → ∀ key,
        (s.run [.seed path (.ok text), .settle]).2.index.idsAt key =
          s.index.idsAt key ++ (filedUnder key employees).map (·.id) := by
  constructor
  · intro h
    obtain ⟨u, hsteps, hended, hrow⟩ := exists_steps_borisFirst
    have hinorder := h {} orlovas u (idle_new {}) hsteps hended "orlova"
    rw [hrow] at hinorder
    revert hinorder
    decide +kernel
  · intro h
    have hholds := holdsList_written orlovas
    have hinorder := h { stopped := true } orlovas "staff.json" _ ⟨⟨rfl, rfl⟩, rfl⟩ rfl rfl rfl hholds "orlova"
    rw [run_seed_settle "staff.json" hholds] at hinorder
    revert hinorder
    decide +kernel

/-- The second record has no surname. -/
def withoutSurname : String :=
  "[\x7b\"id\":\"e1\",\"name\":\"Anna\",\"surname\":\"Orlova\"\x7d,\x7b\"id\":\"e2\",\"name\":\"Boris\"\x7d]"

theorem not_holdsList_withoutSurname : ¬ ∃ employees, Employee.reader.HoldsList withoutSurname employees := by
  have hread : ((Json.Reader.list Employee.reader).whole withoutSurname).toOption = none := by decide +kernel
  rintro ⟨employees, h⟩
  rw [holdsList_iff.2 h] at hread
  cases hread

/-- Ivan is stored and filed under his surname. -/
def ivanFiled : Service where
  access.stores.index := Index.empty.append "e0" ["orlova"]
  access.stores.staff := Staff.empty.insert { id := "e0", name := "Ivan", surname := "Orlova" }

/-- Anna is not stored without Boris. With the record of Boris in her place, and Vera without an id between them, the
row of the surname that all of them share has the id of Ivan and then theirs twice. -/
theorem seed_refused_or_taken_ivanFiled :
    (∃ e, ivanFiled.step (.seed "staff.json" (.ok withoutSurname)) =
      (.error (.seed (.malformed "staff.json" e)), ivanFiled)) ∧
    ∃ t, ivanFiled.step (.seed "staff.json" (.ok sharedId)) = (.done, t) ∧
      t.staff.find? "e0" = some { id := "e0", name := "Ivan", surname := "Orlova" } ∧
      t.staff.find? "" = some { id := "", name := "Vera", surname := "Orlova" } ∧
      t.staff.find? "e1" = some { id := "e1", name := "Boris", surname := "Orlova" } ∧
      t.index.idsAt "orlova" = ["e0"] ∧ t.settle.index.idsAt "orlova" = ["e0", "e1", "e1"] := by
  refine ⟨(seed_refused_or_taken ivanFiled "staff.json" withoutSurname).1 not_holdsList_withoutSurname, ?_⟩
  obtain ⟨t, ht, hseeded⟩ := (seed_refused_or_taken ivanFiled "staff.json" sharedId).2 sharedIdRecords
    (holdsList_iff.1 whole_sharedId)
  obtain ⟨index, queue, hsettle, hrows, -⟩ := hseeded.settled ⟨⟨⟨rfl, rfl⟩, rfl⟩, rfl, rfl, rfl⟩
  have hstored (id : EmployeeId) := hseeded.stored id
  refine ⟨t, ht, (hstored "e0").trans (by decide), (hstored "").trans (by decide), (hstored "e1").trans (by decide),
    ?_, ?_⟩
  · rw [hseeded.unindexed]
    decide
  · rw [hsettle]
    exact (hrows "orlova").trans (by decide +kernel)

end Service

end StaffIndex
