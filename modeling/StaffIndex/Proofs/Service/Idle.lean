import StaffIndex.Proofs.Indexing.Effect
import StaffIndex.Proofs.Service.Access
import StaffIndex.Service.Command

/-!
# A service at rest

An idle service has open stores and nothing under way. It answers a call at once (`call_of_idle`), it has nothing to
settle (`settle_of_idle`), and a task that is queued on it runs to its end as soon as the service settles
(`settle_submit`).
-/

namespace StaffIndex.Service

variable {ε α : Type} {s : Service}

/-- Nothing is under way, and no request fails or is held back. -/
structure Idle (s : Service) : Prop where
  access : s.access.Open
  ready : s.ready = []
  waiting : s.waiting = []
  running : s.stopped = false

def stores (s : Service) : Stores := s.access.stores

/-- The service with other stores. -/
def setStores (s : Service) (stores : Stores) : Service := { s with access.stores := stores }

theorem Idle.setStores (h : s.Idle) (stores : Stores) : (s.setStores stores).Idle :=
  ⟨h.access.setStores stores, h.ready, h.waiting, h.running⟩

theorem Idle.setQueue (h : s.Idle) (queue : Queue) : Idle { s with queue } :=
  ⟨h.access, h.ready, h.waiting, h.running⟩

/-- A new service is idle. -/
theorem idle_new (settings : Search.Settings) : Idle { settings } := ⟨⟨⟨rfl, rfl⟩, rfl⟩, rfl, rfl, rfl⟩

theorem call_of_open [RaisedByStore ε] (h : s.access.Open) (p : Plan ε α) :
    s.call p = (.result (s.stores.run p).1, s.setStores (s.stores.run p).2) := by
  simp only [call, Access.advance_of_open h]
  rfl

theorem call_of_idle [RaisedByStore ε] (h : s.Idle) (p : Plan ε α) :
    s.call p = (.result (s.stores.run p).1, s.setStores (s.stores.run p).2) := call_of_open h.access p

/-- The hook of a deletion queues the values that are stored. -/
theorem employeeDeleted_of_open (h : s.access.Open) {id : EmployeeId} (hid : id ≠ "") {e : Employee}
    (he : s.staff.find? id = some e) :
    s.employeeDeleted id = (.result (.ok ()), s.submit (.delete id e.indexableValues)) := by
  have hcall : s.call (Indexing.deleted id) = (.result (.ok (.delete id e.indexableValues)), s) := by
    rw [call_of_open h, Indexing.run_deleted hid, show s.stores.staff.find? id = some e from he]
    rfl
  rw [employeeDeleted, hcall]

theorem settle_of_idle (h : s.Idle) : s.settle = s := by
  obtain ⟨access, settings, queue, ready, waiting, stopped⟩ := s
  cases h.ready
  rfl

/-- The queue only wants to know whether a job has succeeded. -/
theorem runJob_of_ended {job : Job} {b : Access} {r : Except IndexError Unit}
    (h : s.access.advance job.admitted job.plan = (.ended r, b)) :
    s.runJob job = { s with access := b, queue := s.queue.settle job.ticket r.isOk } := by
  rw [runJob, h]
  cases r <;> rfl

/-- A job runs to its end if nothing stops it. -/
theorem runJob_of_open (h : s.access.Open) (job : Job) : s.runJob job =
    { s.setStores (s.stores.run job.plan).2 with
      queue := s.queue.settle job.ticket (s.stores.run job.plan).1.isOk } :=
  runJob_of_ended (Access.advance_of_open h job.admitted job.plan)

/-- The queue after a task that was submitted and has ended. -/
def ranQueue (s : Service) (task : Task) : Queue :=
  s.queue.submit.settle s.queue.submitted (s.stores.run (Indexing.perform task)).1.isOk

theorem settle_submit (h : s.Idle) (task : Task) :
    (s.submit task).settle =
      { s.setStores (s.stores.run (Indexing.perform task)).2 with queue := s.ranQueue task } := by
  obtain ⟨access, settings, queue, ready, waiting, stopped⟩ := s
  cases h.ready
  cases h.running
  exact runJob_of_open (s := { access, settings, queue := queue.submit, waiting }) h.access
    { ticket := queue.submitted, plan := Indexing.perform task }

end StaffIndex.Service
