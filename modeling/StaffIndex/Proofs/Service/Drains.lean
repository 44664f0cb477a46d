import StaffIndex.Proofs.Service.Turns

/-!
# Draining

Draining the queue is invisible to the work: of two courses with the same turns of callers and jobs, one with more drains,
both give the same answers and come to the same service, but for what the queue tracks (`drains_invisible`).

- `drained` forgets what is tracked, and `untracked` what an answer tells of it. No function of the service looks at what
  is tracked: drained first, it does the same (`drained_runJob`, `drained_call`, `drained_outcome`).
- Nor does a job look at it when it has its turn (`drained_turn`). So a drain can be left out of a course, whatever the
  jobs do before and after it (`drained_course_of_withDrains`).
-/

namespace StaffIndex

/-- The counts without that of the tracked tasks. -/
def Queue.Stats.untracked (s : Queue.Stats) : Queue.Stats := { s with tracked := 0 }

def Http.Content.untracked : Http.Content → Http.Content
  | .drained _ => .drained 0
  | .stats s => .stats s.untracked
  | content => content

def Http.Response.untracked (r : Http.Response) : Http.Response := { r with content := r.content.untracked }

namespace Answer

/-- The answer without the numbers of tasks that are tracked or were drained. -/
def untracked : Answer → Answer
  | .submitted _ => .submitted 0
  | .settled idle s => .settled idle s.untracked
  | .drained _ => .drained 0
  | .stats s => .stats s.untracked
  | .response r => .response r.untracked
  | answer => answer

/-- The number of drained tasks that an answer tells. -/
def drained? : Answer → Option Nat
  | .drained n => some n
  | .response ⟨_, .drained n⟩ => some n
  | _ => none

/-- What a search has found. -/
def found? : Answer → Option (List Summary)
  | .employees found => some found
  | _ => none

end Answer

namespace Command

/-- The command drains the queue, called directly or over HTTP. -/
def Drains : Command → Prop
  | .drain => True
  | .http r => Http.Route.ofPath? r.path = some .clearTasks ∧ r.method ∈ Http.Route.clearTasks.methods
  | _ => False

/-- The command searches, called directly or over HTTP. -/
def Searches : Command → Prop
  | .exact _ => True
  | .suggest _ => True
  | .ranked _ _ => True
  | .http r => ∃ route ∈ [Http.Route.basic, .full, .suggest], Http.Route.ofPath? r.path = some route
  | _ => False

end Command

/-- The second list has all turns of the first, and more drains. -/
inductive WithDrains : List Turn → List Turn → Prop
  | nil : WithDrains [] []
  | keep (t : Turn) {ts us : List Turn} (h : WithDrains ts us) : WithDrains (t :: ts) (t :: us)
  | drain {d : Command} (hd : d.Drains) {ts us : List Turn} (h : WithDrains ts us) : WithDrains ts (.command d :: us)

/-- Each point of the list with more drains is one of the list without them. -/
theorem WithDrains.split {ts before after : List Turn} (h : WithDrains ts (before ++ after)) :
    ∃ before' after', ts = before' ++ after' ∧ WithDrains before' before ∧ WithDrains after' after := by
  induction before generalizing ts with
  | nil => exact ⟨[], ts, rfl, .nil, h⟩
  | cons t before ih =>
    cases h with
    | keep _ h =>
      obtain ⟨before', after', rfl, hb, ha⟩ := ih h
      exact ⟨t :: before', after', rfl, .keep t hb, ha⟩
    | drain hd h =>
      obtain ⟨before', after', rfl, hb, ha⟩ := ih h
      exact ⟨before', after', rfl, .drain hd hb, ha⟩

namespace Service

variable {s t : Service}

/-- The service after draining its queue. -/
def drained (s : Service) : Service := { s with queue := s.queue.drain }

/-- All but the tracked tasks is there still. -/
theorem eq_of_drained_eq (h : s.drained = t.drained) :
    s.index = t.index ∧ s.staff = t.staff ∧ s.ready = t.ready ∧ s.waiting = t.waiting ∧
      s.queue.stats.untracked = t.queue.stats.untracked := by
  have hindex : s.drained.index = t.drained.index := by rw [h]
  have hstaff : s.drained.staff = t.drained.staff := by rw [h]
  have hready : s.drained.ready = t.drained.ready := by rw [h]
  have hwaiting : s.drained.waiting = t.drained.waiting := by rw [h]
  have hstats : s.drained.queue.stats.untracked = t.drained.queue.stats.untracked := by rw [h]
  exact ⟨hindex, hstaff, hready, hwaiting, hstats⟩

/-! ## Jobs -/

theorem drained_submit (s : Service) (task : Task) : (s.drained.submit task).drained = (s.submit task).drained := by
  obtain ⟨access, settings, queue, ready, waiting, stopped⟩ := s
  cases stopped <;> rfl

theorem drained_submit_congr (h : s.drained = t.drained) (task : Task) :
    (s.submit task).drained = (t.submit task).drained := by
  rw [← drained_submit s, h, drained_submit]

theorem drained_runJob (s : Service) (job : Job) : (s.drained.runJob job).drained = (s.runJob job).drained := by
  have hadv : s.drained.access.advance job.admitted job.plan = s.access.advance job.admitted job.plan := rfl
  unfold runJob
  rw [hadv]
  rcases s.access.advance job.admitted job.plan with ⟨(_ | _) | _ | rest, access⟩ <;> rfl

theorem drained_foldl_runJob (s : Service) (jobs : List Job) :
    (jobs.foldl runJob s.drained).drained = (jobs.foldl runJob s).drained := by
  induction jobs generalizing s with
  | nil => rfl
  | cons job jobs ih =>
    rw [List.foldl_cons, List.foldl_cons, ← ih, drained_runJob, ih]

theorem drained_settle (s : Service) : s.drained.settle.drained = s.settle.drained :=
  drained_foldl_runJob { s with ready := [] } s.ready

/-! ## Calls -/

/-- The same result, and the same service but for what it tracks. -/
structure Alike {α : Type} (x y : α × Service) : Prop where
  result : x.1 = y.1
  drained : x.2.drained = y.2.drained

theorem Alike.map {α β : Type} {x y : α × Service} (h : Alike x y) (f : α → β) : Alike (f x.1, x.2) (f y.1, y.2) :=
  ⟨congrArg f h.result, h.drained⟩

theorem Alike.exists_eq {α : Type} {x y : α × Service} (h : Alike x y) :
    ∃ a t u, x = (a, t) ∧ y = (a, u) ∧ t.drained = u.drained :=
  ⟨x.1, x.2, y.2, rfl, Prod.ext h.result.symm rfl, h.drained⟩

theorem drained_call {ε α : Type} [RaisedByStore ε] (s : Service) (plan : Plan ε α) :
    Alike (s.drained.call plan) (s.call plan) := by
  have hadv : s.drained.access.advance false plan = s.access.advance false plan := rfl
  unfold call
  rw [hadv]
  rcases s.access.advance false plan with ⟨r | _ | rest, access⟩
  · exact ⟨rfl, rfl⟩
  · exact ⟨rfl, rfl⟩
  · exact ⟨rfl, drained_settle { s with access }⟩

theorem drained_submit? (s : Service) (task? : Option Task) : Alike (s.drained.submit? task?) (s.submit? task?) := by
  cases task? with
  | none => exact ⟨rfl, rfl⟩
  | some task => exact ⟨rfl, drained_submit s task⟩

theorem drained_employeeCreated (s : Service) (e : Employee) :
    Alike (s.drained.employeeCreated e) (s.employeeCreated e) := by
  unfold employeeCreated
  cases Indexing.created e with
  | error e => exact ⟨rfl, rfl⟩
  | ok task? => exact (drained_submit? s task?).map Except.ok

theorem drained_employeeEdited (s : Service) (id : EmployeeId) (p : Patch) :
    Alike (s.drained.employeeEdited id p) (s.employeeEdited id p) := by
  unfold employeeEdited
  cases Indexing.edited id p with
  | error e => exact ⟨rfl, rfl⟩
  | ok task? => exact (drained_submit? s task?).map Except.ok

theorem drained_employeeDeleted (s : Service) (id : EmployeeId) :
    Alike (s.drained.employeeDeleted id) (s.employeeDeleted id) := by
  obtain ⟨ending, t, u, ht, hu, h⟩ := (drained_call s (Indexing.deleted id)).exists_eq
  simp only [employeeDeleted, ht, hu]
  rcases ending with (_ | task) | _ | _
  · exact ⟨rfl, h⟩
  · exact ⟨rfl, drained_submit_congr h task⟩
  · exact ⟨rfl, h⟩
  · exact ⟨rfl, h⟩

theorem drained_foldl_seedOne (s : Service) (employees : List Employee) :
    (employees.foldl seedOne s.drained).drained = (employees.foldl seedOne s).drained := by
  induction employees generalizing s with
  | nil => rfl
  | cons e employees ih =>
    have hone : (s.drained.seedOne e).drained = (s.seedOne e).drained :=
      (drained_employeeCreated (s.setStaff (s.staff.insert e)) e).drained
    rw [List.foldl_cons, List.foldl_cons, ← ih, hone, ih]

/-! ## HTTP -/

theorem drained_respond (s : Service) (plan : Plan SearchError (List Summary)) :
    Alike (s.drained.respond plan) (s.respond plan) := by
  obtain ⟨ending, t, u, ht, hu, h⟩ := (drained_call s plan).exists_eq
  simp only [respond, ht, hu]
  rcases ending with (_ | found) | _ | _ <;> exact ⟨rfl, h⟩

theorem drained_respondTo {α : Type} (s : Service) (body : Except Http.Rejection α)
    (search : α → Plan SearchError (List Summary)) :
    Alike (s.drained.respondTo body search) (s.respondTo body search) := by
  cases body with
  | error r => exact ⟨rfl, rfl⟩
  | ok query => exact drained_respond s (search query)

/-- A response without what it tells of the tracked tasks, if there is one. -/
def untrackedResponse (x : Option Http.Response × Service) : Option Http.Response × Service :=
  (x.1.map (·.untracked), x.2)

theorem drained_serveRoute (s : Service) (request : Http.Request) (route : Http.Route) :
    Alike (untrackedResponse (s.drained.serveRoute request route)) (untrackedResponse (s.serveRoute request route)) := by
  cases route with
  | basic => exact (drained_respondTo s _ _).map _
  | full => exact (drained_respondTo s _ _).map _
  | suggest => exact (drained_respondTo s _ _).map _
  | clearTasks => exact ⟨rfl, rfl⟩
  | stats =>
    simp only [serveRoute]
    split <;> exact ⟨rfl, rfl⟩

theorem drained_serve (s : Service) (request : Http.Request) :
    Alike (untrackedResponse (s.drained.serve request)) (untrackedResponse (s.serve request)) := by
  unfold serve
  rcases Http.Route.ofPath? request.path with _ | route
  · exact ⟨rfl, rfl⟩
  · dsimp only
    split
    · exact drained_serveRoute s request route
    · exact ⟨rfl, rfl⟩

theorem step_http (s : Service) (request : Http.Request) :
    s.step (.http request) = ((s.serve request).1.elim .crashed .response, (s.serve request).2) := by
  rw [step]
  rcases s.serve request with ⟨_ | r, t⟩ <;> rfl

theorem untracked_elim (r : Option Http.Response) :
    (r.elim Answer.crashed .response).untracked = (r.map (·.untracked)).elim .crashed .response := by
  cases r <;> rfl

/-! ## Commands -/

/-- An answer without what it tells of the tracked tasks. -/
def untrackedAnswer (x : Answer × Service) : Answer × Service := (x.1.untracked, x.2)

/-- What a command comes to, but for what the answer tells of the tracked tasks. -/
def outcome (s : Service) (c : Command) : Answer × Service := untrackedAnswer (s.step c)

theorem drained_stepIndexing (s : Service) (plan : Plan IndexError Unit) :
    Alike (untrackedAnswer (s.drained.stepIndexing plan)) (untrackedAnswer (s.stepIndexing plan)) :=
  (drained_call s plan).map fun x => (Answer.ofEnding .index (fun _ => .done) x).untracked

theorem drained_stepSearch (s : Service) (plan : Plan SearchError (List Summary)) :
    Alike (untrackedAnswer (s.drained.stepSearch plan)) (untrackedAnswer (s.stepSearch plan)) :=
  (drained_call s plan).map fun x => (Answer.ofEnding .search .employees x).untracked

theorem drained_outcome_http (s : Service) (request : Http.Request) :
    Alike (s.drained.outcome (.http request)) (s.outcome (.http request)) := by
  have h := (drained_serve s request).map fun r => r.elim Answer.crashed .response
  simp only [outcome, untrackedAnswer, step_http, untracked_elim]
  exact h

theorem drained_outcome_seed (s : Service) (path : String) (contents : Except FileError String) :
    Alike (s.drained.outcome (.seed path contents)) (s.outcome (.seed path contents)) := by
  simp only [outcome, step]
  unfold seed
  rcases contents with e | text
  · exact ⟨rfl, rfl⟩
  · dsimp only
    rcases (Json.Reader.list Employee.reader).whole text with e | employees
    · exact ⟨rfl, rfl⟩
    · exact ⟨rfl, drained_foldl_seedOne s employees⟩

theorem drained_outcome_settle (s : Service) : Alike (s.drained.outcome .settle) (s.outcome .settle) := by
  have h := drained_settle s
  have hqueue : s.drained.settle.queue.drain = s.settle.queue.drain := congrArg queue h
  -- The answer tells of the queue only what a drain leaves.
  have hanswer (t : Service) : (t.outcome .settle).1 =
      .settled (t.settle.queue.drain.inFlight == 0) t.settle.queue.drain.stats.untracked := rfl
  exact ⟨by rw [hanswer, hanswer, hqueue], h⟩

/-- **One command.** A service whose queue was drained before does the same. -/
theorem drained_outcome (s : Service) (c : Command) : Alike (s.drained.outcome c) (s.outcome c) := by
  cases c with
  | insert e => exact ⟨rfl, rfl⟩
  | removeEmployee id => exact ⟨rfl, rfl⟩
  | update id p =>
    have hupdate : s.drained.staff.update id p = s.staff.update id p := rfl
    simp only [outcome, step, hupdate]
    cases s.staff.update id p <;> exact ⟨rfl, rfl⟩
  | request r =>
    exact (drained_call s (.request r)).map fun x => (Answer.ofEnding .store (.reply r) x).untracked
  | row key => exact ⟨rfl, rfl⟩
  | rows => exact ⟨rfl, rfl⟩
  | addEntry id values => exact drained_stepIndexing s (Indexing.add id values)
  | deleteEntry id values => exact drained_stepIndexing s (Indexing.delete id values)
  | editEntry id changed values => exact drained_stepIndexing s (Indexing.edit id changed values)
  | perform task => exact drained_stepIndexing s (Indexing.perform task)
  | created e => exact (drained_employeeCreated s e).map fun x => (Answer.ofExcept .index .queued x).untracked
  | deleted id =>
    exact (drained_employeeDeleted s id).map fun x => (Answer.ofEnding .index (fun _ => .queued true) x).untracked
  | edited id p => exact (drained_employeeEdited s id p).map fun x => (Answer.ofExcept .index .queued x).untracked
  | submit task => exact ⟨rfl, drained_submit s task⟩
  | settle => exact drained_outcome_settle s
  | drain => exact ⟨rfl, rfl⟩
  | stats => exact ⟨rfl, rfl⟩
  | exact query => exact drained_stepSearch s (Search.exact query)
  | suggest query => exact drained_stepSearch s (Search.suggest s.settings query)
  | ranked query limit => exact drained_stepSearch s (Search.ranked s.settings query limit)
  | http request => exact drained_outcome_http s request
  | seed path contents => exact drained_outcome_seed s path contents
  | fail call e => exact ⟨rfl, rfl⟩
  | crash call => exact ⟨rfl, rfl⟩
  | heal => exact ⟨rfl, rfl⟩
  | permit n => exact ⟨rfl, rfl⟩

/-- A drain is `drained`, and tells how many tasks were tracked. -/
theorem step_of_drains (s : Service) {d : Command} (h : d.Drains) :
    (s.step d).1.drained? = some s.queue.stats.tracked ∧ (s.step d).2 = s.drained := by
  cases d with
  | drain => exact ⟨rfl, rfl⟩
  | http request =>
    have hserve : s.serve request = s.serveRoute request .clearTasks := by
      rw [serve, h.1]
      exact if_pos (List.contains_iff_mem.2 h.2)
    rw [step_http, hserve]
    exact ⟨rfl, rfl⟩
  | _ => cases h

theorem untracked_stepSearch (s : Service) (plan : Plan SearchError (List Summary)) :
    (s.stepSearch plan).1.untracked = (s.stepSearch plan).1 := by
  rw [stepSearch]
  rcases s.call plan with ⟨(_ | found) | _ | _, t⟩ <;> rfl

theorem untracked_respondTo {α : Type} (s : Service) (body : Except Http.Rejection α)
    (search : α → Plan SearchError (List Summary)) :
    (s.respondTo body search).1.map (·.untracked) = (s.respondTo body search).1 := by
  cases body with
  | error r => rfl
  | ok query =>
    change (s.respond (search query)).1.map (·.untracked) = (s.respond (search query)).1
    rw [respond]
    rcases s.call (search query) with ⟨(_ | found) | _ | _, t⟩ <;> rfl

/-- A search tells nothing of what is tracked. -/
theorem untracked_of_searches (s : Service) {c : Command} (h : c.Searches) :
    (s.step c).1.untracked = (s.step c).1 := by
  cases c with
  | exact query => exact untracked_stepSearch s _
  | suggest query => exact untracked_stepSearch s _
  | ranked query limit => exact untracked_stepSearch s _
  | http request =>
    obtain ⟨route, hmem, hroute⟩ := h
    have hserve : (s.serve request).1.map (·.untracked) = (s.serve request).1 := by
      simp only [serve, hroute]
      split
      · simp only [List.mem_cons, List.not_mem_nil, or_false] at hmem
        rcases hmem with rfl | rfl | rfl
        · exact untracked_respondTo s _ _
        · exact untracked_respondTo s _ _
        · exact untracked_respondTo s _ _
      · rfl
    rw [step_http, untracked_elim, hserve]
  | _ => cases h

/-! ## Courses -/

/-- A job does not look at what is tracked when it makes a request. -/
theorem drained_goOn (s : Service) (job : Job) : Alike (s.drained.goOn job) (s.goOn job) := by
  obtain ⟨ticket, plan, admitted⟩ := job
  cases plan with
  | done a => exact ⟨rfl, rfl⟩
  | fail e => exact ⟨rfl, rfl⟩
  | ask r next =>
    have haccess : s.drained.access = s.access := rfl
    simp only [goOn, haccess]
    cases if admitted then some s.access else s.access.pass? r with
    | none => exact ⟨rfl, rfl⟩
    | some access =>
      dsimp only
      rcases access.answer r with ⟨x | e | _, b⟩ <;> exact ⟨rfl, rfl⟩

/-- **One turn.** Whoever has it, a service whose queue was drained before does the same. -/
theorem drained_turn (s : Service) (t : Turn) : (s.drained.turn t).drained = (s.turn t).drained := by
  cases t with
  | command c => exact (drained_outcome s c).drained
  | job i =>
    have hready : s.drained.ready = s.ready := rfl
    rw [turn, turn, hready]
    cases s.ready[i]? with
    | none => rfl
    | some job =>
      obtain ⟨job?, u, v, hu, hv, h⟩ := (drained_goOn s job).exists_eq
      simp only [hu, hv]
      exact congrArg (fun w : Service => { w with ready := s.ready.take i ++ job?.toList ++ s.ready.drop (i + 1) }) h
  | unbatch i => rfl

theorem drained_course (s : Service) (turns : List Turn) : (s.drained.course turns).drained = (s.course turns).drained := by
  induction turns generalizing s with
  | nil => rfl
  | cons t turns ih =>
    calc ((s.drained.turn t).course turns).drained
      _ = ((s.drained.turn t).drained.course turns).drained := (ih _).symm
      _ = ((s.turn t).drained.course turns).drained := by rw [drained_turn]
      _ = ((s.turn t).course turns).drained := ih _

/-- A drain can be left out of a course. -/
theorem drained_course_of_withDrains (s : Service) {ts us : List Turn} (h : WithDrains ts us) :
    (s.course us).drained = (s.course ts).drained := by
  induction h generalizing s with
  | nil => rfl
  | keep t h ih => exact ih _
  | @drain d hd ts us h ih =>
    calc ((s.step d).2.course us).drained
      _ = (s.drained.course us).drained := by rw [(step_of_drains s hd).2]
      _ = (s.course us).drained := drained_course s us
      _ = (s.course ts).drained := ih s

/-- **Draining is invisible to the work.** Of two courses of a service, with the same turns of callers and jobs in any
order, let one have more drains. At every point of it the other one, at the same point, has the same index, the same
staff, the same jobs and as many tasks in flight, completed and failed. Any command is answered there in the same way but
for the number of tracked or drained tasks, and any search in exactly the same way. A drain tells how many tasks were
tracked before it, and leaves none. -/
theorem drains_invisible (s : Service) {ts before after : List Turn} (h : WithDrains ts (before ++ after)) :
    ∃ before' after', ts = before' ++ after' ∧ WithDrains before' before ∧ WithDrains after' after ∧
      (s.course before).index = (s.course before').index ∧
      (s.course before).staff = (s.course before').staff ∧
      (s.course before).ready = (s.course before').ready ∧
      (s.course before).waiting = (s.course before').waiting ∧
      (s.course before).queue.stats.untracked = (s.course before').queue.stats.untracked ∧
      (∀ c, ((s.course before).step c).1.untracked = ((s.course before').step c).1.untracked) ∧
      (∀ c, c.Searches → ((s.course before).step c).1 = ((s.course before').step c).1) ∧
      ∀ d, d.Drains → ((s.course before).step d).1.drained? = some (s.course before).queue.stats.tracked ∧
        ((s.course before).step d).2.queue.stats.tracked = 0 := by
  obtain ⟨before', after', rfl, hbefore, hafter⟩ := h.split
  have hdrained : (s.course before).drained = (s.course before').drained := drained_course_of_withDrains s hbefore
  have hanswer (c : Command) : ((s.course before).step c).1.untracked = ((s.course before').step c).1.untracked := by
    calc ((s.course before).step c).1.untracked
      _ = ((s.course before).drained.step c).1.untracked := (drained_outcome _ c).result.symm
      _ = ((s.course before').drained.step c).1.untracked := by rw [hdrained]
      _ = ((s.course before').step c).1.untracked := (drained_outcome _ c).result
  obtain ⟨hindex, hstaff, hready, hwaiting, hstats⟩ := eq_of_drained_eq hdrained
  refine ⟨before', after', rfl, hbefore, hafter, hindex, hstaff, hready, hwaiting, hstats, hanswer, fun c hc => ?_,
    fun d hd => ?_⟩
  · rw [← untracked_of_searches _ hc, hanswer, untracked_of_searches _ hc]
  · obtain ⟨htold, hleft⟩ := step_of_drains (s.course before) hd
    rw [hleft]
    exact ⟨htold, rfl⟩

def clearTasks : Command := .http { method := "POST", uri := "/v1/clear-tasks" }

theorem clearTasks_drains : clearTasks.Drains := by
  have hpath : Http.Request.path { method := "POST", uri := "/v1/clear-tasks" } = "/v1/clear-tasks" := by decide +kernel
  have hroute : Http.Route.ofPath? "/v1/clear-tasks" = some .clearTasks := by decide +kernel
  exact ⟨(congrArg Http.Route.ofPath? hpath).trans hroute, by decide⟩

/-- Anna and Boris are stored and to be indexed; Boris gets his turn first and is filed, Anna is held up at the gate. -/
def heldBehind : List Turn :=
  [.command (.insert { id := "e1", name := "Anna", surname := "Orlova" }),
    .command (.created { id := "e1", name := "Anna", surname := "Orlova" }),
    .command (.insert { id := "e2", name := "Boris", surname := "Orlova" }),
    .command (.created { id := "e2", name := "Boris", surname := "Orlova" }),
    .command (.permit 1), .job 1, .job 1, .job 0]

/-- The same, drained while both tasks are queued and again between the two turns of Boris. -/
def drainedBehind : List Turn :=
  [.command (.insert { id := "e1", name := "Anna", surname := "Orlova" }),
    .command (.created { id := "e1", name := "Anna", surname := "Orlova" }),
    .command (.insert { id := "e2", name := "Boris", surname := "Orlova" }),
    .command (.created { id := "e2", name := "Boris", surname := "Orlova" }),
    .command clearTasks, .command (.permit 1), .job 1, .command .drain, .job 1, .job 0]

/-- The row of Boris is there, one task has completed and one waits, and the search finds him, drained or not. -/
theorem drains_invisible_heldBehind :
    let s : Service := { access.gate.guarded := [.append] }
    WithDrains heldBehind (drainedBehind ++ []) ∧
      (s.course drainedBehind).index.toRows = [⟨"boris", ["e2"]⟩, ⟨"orlova", ["e2"]⟩] ∧
      (s.course drainedBehind).waiting.length = 1 ∧
      (s.course drainedBehind).queue.stats.untracked = ⟨0, 1, 1, 0⟩ ∧
      ((s.course drainedBehind).step (.exact "Orlova")).1.found? = some [⟨"e2", "Boris", "Orlova", none, none⟩] ∧
      ((s.course drainedBehind).step .drain).1.drained? = some 0 := by
  intro s
  have hw : WithDrains heldBehind (drainedBehind ++ []) :=
    .keep _ (.keep _ (.keep _ (.keep _ (.drain clearTasks_drains (.keep _ (.keep _ (.drain (d := .drain) trivial
      (.keep _ (.keep _ .nil)))))))))
  obtain ⟨before, after, hsplit, -, hafter, hindex, -, -, hwaiting, hstats, -, hsearch, hdrained⟩ := drains_invisible s hw
  obtain rfl : after = [] := by cases hafter; rfl
  obtain rfl : heldBehind = before := hsplit.trans (List.append_nil _)
  refine ⟨hw, ?_, ?_, ?_, ?_, ?_⟩
  · rw [hindex]
    decide +kernel
  · rw [hwaiting]
    decide +kernel
  · rw [hstats]
    decide +kernel
  · rw [hsearch (.exact "Orlova") trivial]
    decide +kernel
  · rw [(hdrained .drain trivial).1]
    decide +kernel

end Service

end StaffIndex
