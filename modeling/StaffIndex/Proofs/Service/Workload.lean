import StaffIndex.Proofs.Queue.Accounts
import StaffIndex.Proofs.Service.Moves
import StaffIndex.Proofs.Service.Schedule

/-!
# The workload of a service

Whatever a service is asked to do, to its workload it is a run (`evolves_run`): tasks are submitted, get replies from the
stores, and end. A function of the service that touches the queue or the jobs is one such step or several, the others
are none. So the counts of the queue are those of what has happened (`accounts_of_runs`).
-/

namespace StaffIndex

open Workload

/-- What a workload comes to when one of its tasks has got that far. -/
def Progress.workload (q : Queue) (ticket : Nat) (jobs : Multiset (Nat × Plan IndexError Unit)) :
    Progress IndexError Unit → Workload
  | .ended r => ⟨q.settle ticket r.isOk, jobs⟩
  | .crashed => ⟨q.abandon ticket, jobs⟩
  | .waiting rest => ⟨q, (ticket, rest) ::ₘ jobs⟩

/-- A plan gets replies until it ends, crashes or waits. -/
theorem Access.exists_runs_advance (a : Access) (admitted : Bool) (p : Plan IndexError Unit) (q : Queue) (ticket : Nat)
    (jobs : Multiset (Nat × Plan IndexError Unit)) : ∃ events,
      Runs ⟨q, (ticket, p) ::ₘ jobs⟩ events ((a.advance admitted p).1.workload q ticket jobs) := by
  induction p generalizing a admitted with
  | done x => exact ⟨_, .single (.leave .done q jobs ticket)⟩
  | fail e => exact ⟨_, .single (.leave (.fail e) q jobs ticket)⟩
  | ask r next ih =>
    rw [Access.advance]
    rcases if admitted then some a else a.pass? r with _ | b
    · exact ⟨_, .nil _⟩
    · rcases hb : b.answer r with ⟨x | e | _, c⟩
      · obtain ⟨events, h⟩ := ih x c false
        simp only [hb]
        exact ⟨_, .cons (.answer q jobs ticket next x) h⟩
      · simp only [hb]
        exact ⟨_, .single (.leave (.refused r next e) q jobs ticket)⟩
      · simp only [hb]
        exact ⟨_, .single (.leave (.crashed r next) q jobs ticket)⟩

namespace Service

variable {s t u : Service}

def workload (s : Service) : Workload := ⟨s.queue, ↑((s.ready ++ s.waiting).map jobLeft)⟩

/-- To the workload the way from one service to the other is a run. -/
def Evolves (s t : Service) : Prop := ∃ events, Runs s.workload events t.workload

theorem Evolves.trans (h : s.Evolves t) (h' : t.Evolves u) : s.Evolves u := by
  obtain ⟨events, hr⟩ := h
  obtain ⟨later, hr'⟩ := h'
  exact ⟨events ++ later, hr.trans hr'⟩

theorem evolves_of_eq (h : t.workload = s.workload) : s.Evolves t := ⟨[], h ▸ .nil _⟩

theorem Evolves.refl (s : Service) : s.Evolves s := ⟨[], .nil _⟩

/-! ## Jobs -/

/-- A submitted task is a new job, or it is dropped if nothing runs any more. -/
theorem evolves_submit (s : Service) (task : Task) : s.Evolves (s.submit task) := by
  have hsubmit : Step s.workload (.submitted task)
      ⟨s.queue.submit, (s.queue.submitted, Indexing.perform task) ::ₘ ↑((s.ready ++ s.waiting).map jobLeft)⟩ :=
    .submit ..
  rw [submit]
  split
  · exact ⟨_, .cons hsubmit (.single (.leave (.dropped _) ..))⟩
  · refine ⟨[.submitted task], .cons hsubmit ?_⟩
    rw [workload, map_jobLeft_ready]
    exact .nil _

/-- One of the jobs that can move gets as far as it can. -/
theorem exists_runs_runJob (s : Service) (job : Job) (jobs : List Job) : ∃ events,
    Runs ⟨s.queue, ↑((job :: jobs ++ s.waiting).map jobLeft)⟩ events
      ⟨(s.runJob job).queue, ↑((jobs ++ (s.runJob job).waiting).map jobLeft)⟩ := by
  obtain ⟨events, h⟩ := s.access.exists_runs_advance job.admitted job.plan s.queue job.ticket
    ↑((jobs ++ s.waiting).map jobLeft)
  refine ⟨events, ?_⟩
  rcases hadv : s.access.advance job.admitted job.plan with ⟨r | _ | rest, b⟩
  · rw [hadv] at h
    rw [runJob_of_ended hadv]
    exact h
  · rw [hadv] at h
    simp only [runJob, hadv]
    exact h
  · rw [hadv] at h
    simp only [runJob, hadv]
    rw [map_jobLeft_waiting]
    exact h

theorem exists_runs_foldl_runJob (s : Service) (jobs : List Job) : ∃ events,
    Runs ⟨s.queue, ↑((jobs ++ s.waiting).map jobLeft)⟩ events
      ⟨(jobs.foldl runJob s).queue, ↑((jobs.foldl runJob s).waiting.map jobLeft)⟩ := by
  induction jobs generalizing s with
  | nil => exact ⟨[], .nil _⟩
  | cons job jobs ih =>
    obtain ⟨events, h⟩ := exists_runs_runJob s job jobs
    obtain ⟨later, h'⟩ := ih (s.runJob job)
    exact ⟨events ++ later, h.trans h'⟩

theorem evolves_settle (s : Service) : s.Evolves s.settle := by
  obtain ⟨events, h⟩ := exists_runs_foldl_runJob { s with ready := [] } s.ready
  refine ⟨events, ?_⟩
  rw [workload, workload, ready_settle]
  exact h

/-! ## Calls -/

/-- A call leaves the jobs alone, unless it waits for them. -/
theorem evolves_call {ε α : Type} [RaisedByStore ε] (s : Service) (plan : Plan ε α) : s.Evolves (s.call plan).2 := by
  rw [call]
  split
  · exact .refl s
  · exact .refl s
  · next access _ => exact evolves_settle { s with access }

/-- To the workload only the queue and the jobs count. -/
theorem evolves_of_move {allowed : EmployeeId → String → Prop} (h : Move allowed s t) : s.Evolves t := by
  cases h with
  | call _ plan _ => exact evolves_call s plan
  | submit _ task _ => exact evolves_submit s task
  | settle => exact evolves_settle s
  | write _ staff => exact .refl s
  | drain => exact ⟨_, .single (.drain ..)⟩
  | setFaults _ faults => exact .refl s
  | permit _ n =>
    refine evolves_of_eq ?_
    rw [workload, map_jobLeft_permit]
    rfl

theorem evolves_of_moves {allowed : EmployeeId → String → Prop} (h : Moves allowed s t) : s.Evolves t := by
  induction h with
  | refl => exact .refl s
  | tail _ hmove ih => exact ih.trans (evolves_of_move hmove)

/-- **A run of the service.** To its workload whatever it is asked to do is a run. -/
theorem evolves_run (s : Service) (commands : List Command) : s.Evolves (s.run commands).2 := by
  have hmoves : Moves (fun _ _ => True) s (s.run commands).2 :=
    moves_run (fun _ _ _ => trivial) s fun c _ => c.filesOnly_of_forall fun _ _ => trivial
  exact evolves_of_moves hmoves

/-- **Queue accounting.** In every run and after each of its steps the tasks submitted are those in flight, completed
and failed. In flight are those that have not ended, and no task ends that is not among them; completed are those whose
plan has returned without an error, failed are the other ones that have ended; and each task is carried out once at most
and ends once at most. What is done to a new service, whatever its stores and its gate, is such a run. -/
theorem accounts_of_runs :
    (∀ events w, Runs {} events w → Accounts events w ∧
      (submissions events).length = w.queue.inFlight + w.queue.completed + w.queue.failed ∧
      w.queue.inFlight = (List.range (submissions events).length).countP (· ∉ (endings events).map (·.1)) ∧
      ((endings events).map (·.1)).Nodup ∧
      ∀ ticket fate v, Step w (.ended ticket fate) v → w.queue.inFlight = v.queue.inFlight + 1) ∧
    ∀ access settings stopped commands, ∃ events,
      Runs {} events (run { access, settings, stopped } commands).2.workload := by
  constructor
  · intro events w hruns
    have h : Accounts events w := Accounts.start.runs hruns
    exact ⟨h, h.length_submissions, h.inFlight_eq, h.nodup_endings, fun ticket fate v => h.inFlight_of_leave⟩
  · exact fun access settings stopped => evolves_run { access, settings, stopped }

/-- A task that was drained fails all the same, and the next one completes. -/
def refusedEdit : List Event :=
  [.submitted (.edit "e1" [.team] ["Core"]), .drained, .ended 0 (.returned (.error (.store (.database "closed")))),
    .submitted (.add "e2" []), .ended 1 (.returned (.ok ()))]

theorem accounts_of_runs_refusedEdit : ∃ w, Runs {} refusedEdit w ∧ w.queue.stats = ⟨1, 0, 1, 1⟩ ∧
    (submissions refusedEdit).length = w.queue.inFlight + w.queue.completed + w.queue.failed := by
  have hruns : Runs {} refusedEdit ⟨((Queue.submit {}).drain.settle 0 false).submit.settle 1 true, 0⟩ := by
    refine .cons (.submit ..) (.cons (.drain ..) (.cons (.leave (.refused (.values "e1" [.team]) _ _) ..) ?_))
    exact .cons (.submit ..) (.single (.leave .done ..))
  exact ⟨_, hruns, rfl, (accounts_of_runs.1 _ _ hruns).2.1⟩

end Service

end StaffIndex
