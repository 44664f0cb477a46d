import StaffIndex.Indexing.Hooks
import StaffIndex.Indexing.Tasks
import StaffIndex.Queue
import StaffIndex.Search.Engine
import StaffIndex.Service.Access

/-!
# The service

The service holds the stores, the queue, and the jobs that carry out the queued tasks. Jobs only move when the service
settles, so every run is determined by the order of the calls: then each job that can move runs, in the order in which
they became able to, until it ends or waits at the gate. Permits go to the waiting jobs in the order of their arrival.
-/

namespace StaffIndex

/-- A task under way. -/
structure Job where
  ticket : Nat
  plan : Plan IndexError Unit
  /-- The next request of the plan has passed the gate. -/
  admitted : Bool := false

structure Service where
  access : Access := {}
  settings : Search.Settings := {}
  queue : Queue := {}
  /-- The jobs that can move. -/
  ready : List Job := []
  /-- The jobs at the gate, in the order of arrival. -/
  waiting : List Job := []
  /-- Nothing runs any more: every submitted task is dropped. -/
  stopped : Bool := false

/-- The end of a call: its result, or that it crashed, or that it was given up at the gate. -/
inductive Ending (ε α : Type) where
  | result (r : Except ε α)
  | crashed
  | blocked

namespace Service

/-- Queues a task. -/
def submit (s : Service) (task : Task) : Service :=
  let queue := s.queue.submit
  let ticket := s.queue.submitted
  if s.stopped then { s with queue := queue.abandon ticket }
  else { s with queue, ready := s.ready ++ [{ ticket, plan := Indexing.perform task }] }

/-- Lets one job run as far as it gets. -/
def runJob (s : Service) (job : Job) : Service :=
  match s.access.advance job.admitted job.plan with
  | (.ended (.ok ()), access) => { s with access, queue := s.queue.settle job.ticket true }
  | (.ended (.error _), access) => { s with access, queue := s.queue.settle job.ticket false }
  | (.crashed, access) => { s with access, queue := s.queue.abandon job.ticket }
  | (.waiting plan, access) => { s with access, waiting := s.waiting ++ [{ ticket := job.ticket, plan }] }

/-- Lets all jobs run that can move. -/
def settle (s : Service) : Service := s.ready.foldl runJob { s with ready := [] }

/-- Opens the gate for `n` more requests, first for those that wait there. -/
def permit (s : Service) (n : Nat) : Service :=
  let admitted := (s.waiting.take n).map fun job => { job with admitted := true }
  { s with
    ready := s.ready ++ admitted
    waiting := s.waiting.drop n
    access.gate.permits := s.access.gate.permits + (n - s.waiting.length) }

/-- Runs a plan on behalf of a caller. If it has to wait at the gate, the jobs run, and then it is given up. -/
def call {ε α : Type} [RaisedByStore ε] (s : Service) (plan : Plan ε α) : Ending ε α × Service :=
  match s.access.advance false plan with
  | (.ended r, access) => (.result r, { s with access })
  | (.crashed, access) => (.crashed, { s with access })
  | (.waiting _, access) => (.blocked, { s with access }.settle)

def index (s : Service) : Index := s.access.stores.index

def staff (s : Service) : Staff := s.access.stores.staff

def setStaff (s : Service) (staff : Staff) : Service := { s with access.stores.staff := staff }

/-- Queues the task that a hook asks for, if any, and tells whether there was one. -/
def submit? (s : Service) : Option Task → Bool × Service
  | none => (false, s)
  | some task => (true, s.submit task)

/-- Called after an employee is stored. -/
def employeeCreated (s : Service) (e : Employee) : Except IndexError Bool × Service :=
  match Indexing.created e with
  | .error e => (.error e, s)
  | .ok task => let (queued, s) := s.submit? task; (.ok queued, s)

/-- Called before a patch is applied to a stored employee. -/
def employeeEdited (s : Service) (id : EmployeeId) (p : Patch) : Except IndexError Bool × Service :=
  match Indexing.edited id p with
  | .error e => (.error e, s)
  | .ok task => let (queued, s) := s.submit? task; (.ok queued, s)

/-- Called before an employee is deleted. -/
def employeeDeleted (s : Service) (id : EmployeeId) : Ending IndexError Unit × Service :=
  match s.call (Indexing.deleted id) with
  | (.result (.ok task), s) => (.result (.ok ()), s.submit task)
  | (.result (.error e), s) => (.result (.error e), s)
  | (.crashed, s) => (.crashed, s)
  | (.blocked, s) => (.blocked, s)

end Service

end StaffIndex
