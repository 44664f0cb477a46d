import StaffIndex.Service.Http
import StaffIndex.Service.Seed

/-!
# Commands

Everything that can be done to a service, one command at a time, with its answer; a run is a list of commands. Besides
the calls of the service itself these are direct calls of its stores, and the faults and permits that its stores obey.
-/

namespace StaffIndex

inductive Command where
  | insert (e : Employee)
  | removeEmployee (id : EmployeeId)
  | update (id : EmployeeId) (p : Patch)
  /-- A request straight to the stores. -/
  | request (r : Request)
  | row (key : String)
  | rows
  | addEntry (id : EmployeeId) (values : List String)
  | deleteEntry (id : EmployeeId) (values : List String)
  | editEntry (id : EmployeeId) (changed : List Field) (values : List String)
  /-- Carries out a task on the spot. -/
  | perform (task : Task)
  | created (e : Employee)
  | deleted (id : EmployeeId)
  | edited (id : EmployeeId) (p : Patch)
  | submit (task : Task)
  | settle
  | drain
  | stats
  | exact (query : String)
  | suggest (query : String)
  | ranked (query : String) (limit : Nat)
  | http (request : Http.Request)
  | seed (path : String) (contents : Except FileError String)
  | fail (call : Call) (e : StoreError)
  | crash (call : Call)
  | heal
  | permit (n : Nat)

/-- What went wrong with a command. -/
inductive CommandError where
  | store (e : StoreError)
  | index (e : IndexError)
  | search (e : SearchError)
  | seed (e : SeedError)

inductive Answer where
  | done
  | error (e : CommandError)
  /-- The command was given up at the gate. -/
  | blocked
  | crashed
  | reply (r : Request) (x : r.Reply)
  | removed (e : Option Employee)
  | row (ids : Option (List EmployeeId))
  | rows (rows : List Row)
  | queued (queued : Bool)
  | submitted (tracked : Nat)
  /-- No task is in flight any more, or some are still held at the gate. -/
  | settled (idle : Bool) (stats : Queue.Stats)
  | drained (n : Nat)
  | stats (stats : Queue.Stats)
  | employees (found : List Summary)
  | response (r : Http.Response)

namespace Answer

variable {ε α : Type}

/-- The answer to a call. -/
def ofEnding (error : ε → CommandError) (answer : α → Answer) : Ending ε α → Answer
  | .result (.ok a) => answer a
  | .result (.error e) => .error (error e)
  | .crashed => .crashed
  | .blocked => .blocked

def ofExcept (error : ε → CommandError) (answer : α → Answer) : Except ε α → Answer
  | .ok a => answer a
  | .error e => .error (error e)

end Answer

namespace Service

/-- Runs a plan of the index writer. -/
def stepIndexing (s : Service) (plan : Plan IndexError Unit) : Answer × Service :=
  let (ending, s) := s.call plan
  (.ofEnding .index (fun _ => .done) ending, s)

/-- Runs a search. -/
def stepSearch (s : Service) (plan : Plan SearchError (List Summary)) : Answer × Service :=
  let (ending, s) := s.call plan
  (.ofEnding .search .employees ending, s)

def step (s : Service) : Command → Answer × Service
  | .insert e => (.done, s.setStaff (s.staff.insert e))
  | .removeEmployee id => (.removed (s.staff.find? id), s.setStaff (s.staff.erase id))
  | .update id p => match s.staff.update id p with
    | .ok staff => (.done, s.setStaff staff)
    | .error e => (.error (.store e), s)
  | .request r =>
    let (ending, s) := s.call (Plan.request r : Plan StoreError r.Reply)
    (.ofEnding .store (.reply r) ending, s)
  | .row key => (.row (s.index.find? key), s)
  | .rows => (.rows s.index.toRows, s)
  | .addEntry id values => s.stepIndexing (Indexing.add id values)
  | .deleteEntry id values => s.stepIndexing (Indexing.delete id values)
  | .editEntry id changed values => s.stepIndexing (Indexing.edit id changed values)
  | .perform task => s.stepIndexing (Indexing.perform task)
  | .created e => let (r, s) := s.employeeCreated e; (.ofExcept .index .queued r, s)
  | .deleted id => let (r, s) := s.employeeDeleted id; (.ofEnding .index (fun _ => .queued true) r, s)
  | .edited id p => let (r, s) := s.employeeEdited id p; (.ofExcept .index .queued r, s)
  | .submit task => let s := s.submit task; (.submitted s.queue.stats.tracked, s)
  | .settle => let s := s.settle; (.settled (s.queue.inFlight == 0) s.queue.stats, s)
  | .drain => (.drained s.queue.stats.tracked, { s with queue := s.queue.drain })
  | .stats => (.stats s.queue.stats, s)
  | .exact query => s.stepSearch (Search.exact query)
  | .suggest query => s.stepSearch (Search.suggest s.settings query)
  | .ranked query limit => s.stepSearch (Search.ranked s.settings query limit)
  | .http request => match s.serve request with
    | (some r, s) => (.response r, s)
    | (none, s) => (.crashed, s)
  | .seed path contents => match s.seed path contents with
    | .ok s => (.done, s)
    | .error e => (.error (.seed e), s)
  | .fail call e => (.done, { s with access.faults.failing := (call, e) :: s.access.faults.failing })
  | .crash call => (.done, { s with access.faults.crashing := call :: s.access.faults.crashing })
  | .heal => (.done, { s with access.faults := {} })
  | .permit n => (.done, s.permit n)

/-- The answers to a list of commands, and the service after them. -/
def run (s : Service) : List Command → List Answer × Service
  | [] => ([], s)
  | c :: cs =>
    let (answer, s) := s.step c
    let (answers, s) := s.run cs
    (answer :: answers, s)

end Service

end StaffIndex
