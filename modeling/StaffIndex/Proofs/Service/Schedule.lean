import StaffIndex.Proofs.Indexing.Interleaving
import StaffIndex.Proofs.Service.Idle

/-!
# The schedule of a service

A service without faults represents tasks under way (`Represents`): its jobs, at the gate or not, are those that run.

- What the service does with its jobs is one of the ways in which such tasks can go on, whatever is guarded: a job goes
  on to its end or to the gate (`exists_steps_runJob`), and submitting, settling and permitting keep the representation
  (`exists_steps_run`). So tasks of different employees come to what they come to one after the other
  (`asIfSerial_of_run`).
- An idle service carries out tasks on the spot, one after the other (`run_perform`), and tasks that are queued on it
  come to the same when it settles (`settle_foldl_submit`).
-/

namespace StaffIndex

open Indexing Relation

variable (edited : EmployeeId → Prop)

/-! ## Plans -/

/-- A plan that ends or comes to the gate has gone on until there. -/
theorem Access.exists_steps_advance {a b : Access} (h : a.Faultless) (admitted : Bool) (p : Plan IndexError Unit)
    (q : Queue) (id : EmployeeId) (ticket : Nat) (ps : Multiset Task) (rs : Multiset Running)
    {progress : Progress IndexError Unit} (hp : a.advance admitted p = (progress, b)) :
    b.Faultless ∧ ∃ v, ReflTransGen (Step edited) ⟨a.stores, q, ps, ⟨id, ticket, p⟩ ::ₘ rs⟩ v ∧
      ((∃ r, progress = .ended r ∧ v = ⟨b.stores, q.settle ticket r.isOk, ps, rs⟩) ∨
        ∃ rest, progress = .waiting rest ∧ v = ⟨b.stores, q, ps, ⟨id, ticket, rest⟩ ::ₘ rs⟩) := by
  induction p generalizing a admitted with
  | done x =>
    cases hp
    exact ⟨h, _, .single (.done ..), .inl ⟨_, rfl, rfl⟩⟩
  | fail e =>
    cases hp
    exact ⟨h, _, .single (.fail ..), .inl ⟨_, rfl, rfl⟩⟩
  | ask r next ih =>
    rw [Access.advance] at hp
    rcases hpass : (if admitted then some a else a.pass? r) with _ | c
    · rw [hpass] at hp
      cases hp
      exact ⟨h, _, .refl, .inr ⟨_, rfl, rfl⟩⟩
    · have hc : c.stores = a.stores ∧ c.faults = a.faults := by
        split at hpass
        · cases hpass; exact ⟨rfl, rfl⟩
        · exact eq_of_pass? hpass
      have hcf : c.Faultless := ⟨hc.2 ▸ h.crashing, hc.2 ▸ h.failing⟩
      simp only [hpass, answer_of_faultless hcf] at hp
      obtain ⟨hb, v, hsteps, hv⟩ := ih _ (a := { c with stores := (c.stores.answer r).2 })
        ⟨hcf.crashing, hcf.failing⟩ false hp
      rw [hc.1] at hsteps
      exact ⟨hb, v, .head (.advance (.ask a.stores r next) q id ticket ps rs) hsteps, hv⟩

namespace Service

variable {s : Service} {u : Underway} {job : Job} {jobs : List Job}

/-- What is left to do of a job. -/
def jobLeft (job : Job) : Nat × Plan IndexError Unit := (job.ticket, job.plan)

theorem map_jobLeft_ready (job : Job) (ready waiting : List Job) :
    (↑((ready ++ [job] ++ waiting).map jobLeft) : Multiset (Nat × Plan IndexError Unit)) =
      jobLeft job ::ₘ ↑((ready ++ waiting).map jobLeft) := by
  rw [Multiset.cons_coe, Multiset.coe_eq_coe, List.append_assoc]
  exact (List.perm_middle (a := job)).map jobLeft

theorem map_jobLeft_waiting (job : Job) (ready waiting : List Job) :
    (↑((ready ++ (waiting ++ [job])).map jobLeft) : Multiset (Nat × Plan IndexError Unit)) =
      jobLeft job ::ₘ ↑((ready ++ waiting).map jobLeft) := by
  rw [Multiset.cons_coe, Multiset.coe_eq_coe, ← List.append_assoc]
  exact (List.perm_append_singleton job _).map jobLeft

/-- Permits move jobs from the gate to those that can go on, and nothing is left of more or less. -/
theorem map_jobLeft_permit (s : Service) (n : Nat) :
    ((s.permit n).ready ++ (s.permit n).waiting).map jobLeft = (s.ready ++ s.waiting).map jobLeft := by
  have hadmitted : ((s.waiting.take n).map fun job => { job with admitted := true }).map jobLeft =
      (s.waiting.take n).map jobLeft := by
    rw [List.map_map]
    rfl
  calc ((s.permit n).ready ++ (s.permit n).waiting).map jobLeft
    _ = s.ready.map jobLeft ++ ((s.waiting.take n).map jobLeft ++ (s.waiting.drop n).map jobLeft) := by
      rw [← hadmitted]
      simp [permit]
    _ = (s.ready ++ s.waiting).map jobLeft := by
      rw [← List.map_append, List.take_append_drop, List.map_append]

/-- The service has no faults, and the jobs and those at its gate are the tasks that run. -/
structure Represents (s : Service) (jobs : List Job) (u : Underway) : Prop where
  faultless : s.access.Faultless
  accepts : s.stopped = false
  stores : u.stores = s.stores
  queue : u.queue = s.queue
  running : u.running.map (fun r => (r.ticket, r.rest)) = ↑((jobs ++ s.waiting).map jobLeft)

/-! ## Jobs -/

/-- A job goes on until it ends or waits. -/
theorem exists_steps_runJob (h : s.Represents (job :: jobs) u) : ∃ v, ReflTransGen (Step edited) u v ∧
    (s.runJob job).Represents jobs v ∧ v.pending = u.pending := by
  classical
  obtain ⟨stores, queue, pending, running⟩ := u
  obtain ⟨hf, ha, rfl, rfl, hrunning⟩ := h
  dsimp only at hrunning
  rw [List.cons_append, List.map_cons, ← Multiset.cons_coe, ← Multiset.map_eq_cons] at hrunning
  obtain ⟨⟨id, ticket, plan⟩, hmem, hjob, hrest⟩ := hrunning
  cases hjob
  rw [← Multiset.cons_erase hmem]
  rcases hadv : s.access.advance job.admitted job.plan with ⟨progress, b⟩
  obtain ⟨hb, v, hsteps, ⟨r, rfl, rfl⟩ | ⟨rest, rfl, rfl⟩⟩ :=
    Access.exists_steps_advance edited hf job.admitted job.plan s.queue id job.ticket pending
      (running.erase ⟨id, job.ticket, job.plan⟩) hadv
  · refine ⟨_, hsteps, ?_, rfl⟩
    rw [runJob_of_ended hadv]
    exact ⟨hb, ha, rfl, rfl, hrest⟩
  · refine ⟨_, hsteps, ?_, rfl⟩
    rw [runJob, hadv]
    refine ⟨hb, ha, rfl, rfl, ?_⟩
    rw [Multiset.map_cons, hrest, map_jobLeft_waiting]
    rfl

/-- So do several. -/
theorem exists_steps_foldl_runJob (h : s.Represents jobs u) : ∃ v, ReflTransGen (Step edited) u v ∧
    (jobs.foldl runJob s).Represents [] v ∧ v.pending = u.pending := by
  induction jobs generalizing s u with
  | nil => exact ⟨u, .refl, h, rfl⟩
  | cons job jobs ih =>
    obtain ⟨v, hv, hr, hp⟩ := exists_steps_runJob edited h
    obtain ⟨w, hw, hr', hp'⟩ := ih hr
    exact ⟨w, hv.trans hw, hr', hp'.trans hp⟩

/-- A job that runs makes no other able to. -/
theorem ready_foldl_runJob (s : Service) (jobs : List Job) : (jobs.foldl runJob s).ready = s.ready := by
  induction jobs generalizing s with
  | nil => rfl
  | cons job jobs ih =>
    rw [List.foldl_cons, ih]
    unfold runJob
    split <;> rfl

theorem ready_settle (s : Service) : s.settle.ready = [] := ready_foldl_runJob { s with ready := [] } s.ready

/-! ## Commands -/

theorem exists_steps_settle (h : s.Represents s.ready u) : ∃ v, ReflTransGen (Step edited) u v ∧
    s.settle.Represents s.settle.ready v ∧ v.pending = u.pending := by
  have h' : Represents { s with ready := [] } s.ready u := ⟨h.faultless, h.accepts, h.stores, h.queue, h.running⟩
  obtain ⟨v, hv, hr, hp⟩ := exists_steps_foldl_runJob edited h'
  refine ⟨v, hv, ?_, hp⟩
  rw [ready_settle]
  exact hr

theorem Represents.permit (h : s.Represents s.ready u) (n : Nat) : (s.permit n).Represents (s.permit n).ready u :=
  ⟨⟨h.faultless.crashing, h.faultless.failing⟩, h.accepts, h.stores, h.queue,
    h.running.trans (congrArg _ (map_jobLeft_permit s n).symm)⟩

theorem exists_steps_submit {task : Task} {tasks : Multiset Task} (h : s.Represents s.ready u)
    (hp : u.pending = task ::ₘ tasks) : ∃ v, ReflTransGen (Step edited) u v ∧
      (s.submit task).Represents (s.submit task).ready v ∧ v.pending = tasks := by
  obtain ⟨stores, queue, pending, running⟩ := u
  obtain ⟨hf, ha, rfl, rfl, hrunning⟩ := h
  cases hp
  refine ⟨_, .single (.submit ..), ?_, rfl⟩
  rw [Service.submit, if_neg (by simp [ha])]
  refine ⟨hf, ha, rfl, rfl, ?_⟩
  rw [Multiset.map_cons, hrunning, map_jobLeft_ready]
  rfl

end Service

/-- The commands that let tasks in and on. -/
def Command.Schedules : Command → Prop
  | .submit _ => True
  | .settle => True
  | .permit _ => True
  | _ => False

/-- The task that a command submits. -/
def Command.task? : Command → Option Task
  | .submit task => some task
  | _ => none

namespace Service

variable {s : Service} {u : Underway}

/-- **The service interleaves.** Whatever is guarded, and in whatever order tasks are submitted, settled and permitted,
the service does with them what tasks under way can do. -/
theorem exists_steps_run {commands : List Command} (hc : ∀ c ∈ commands, c.Schedules) (h : s.Represents s.ready u)
    (hp : u.pending = (commands.filterMap Command.task? : List Task)) : ∃ v, ReflTransGen (Step edited) u v ∧
      (s.run commands).2.Represents (s.run commands).2.ready v ∧ v.pending = 0 := by
  induction commands generalizing s u with
  | nil => exact ⟨u, .refl, h, hp⟩
  | cons c cs ih =>
    obtain ⟨hcs, htail⟩ := List.forall_mem_cons.1 hc
    cases c with
    | submit task =>
      have hp' : u.pending = task ::ₘ (cs.filterMap Command.task? : List Task) := hp
      obtain ⟨v, hv, hr, hpv⟩ := exists_steps_submit edited h hp'
      obtain ⟨w, hw, hr', hpw⟩ := ih htail hr hpv
      exact ⟨w, hv.trans hw, hr', hpw⟩
    | settle =>
      obtain ⟨v, hv, hr, hpv⟩ := exists_steps_settle edited h
      obtain ⟨w, hw, hr', hpw⟩ := ih htail hr (hpv.trans hp)
      exact ⟨w, hv.trans hw, hr', hpw⟩
    | permit n => exact ih htail (h.permit n) hp
    | _ => cases hcs

/-- **Commands in any order.** Once all submitted tasks have ended, the service is as if it had carried them out one
after the other. -/
theorem asIfSerial_of_run (hf : s.access.Faultless) (ha : s.stopped = false) (hready : s.ready = [])
    (hwaiting : s.waiting = []) {commands : List Command} (hc : ∀ c ∈ commands, c.Schedules)
    (hd : ((commands.filterMap Command.task?).map Task.employeeId).Nodup)
    (hready' : (s.run commands).2.ready = []) (hwaiting' : (s.run commands).2.waiting = [])
    {order : List Task} (horder : order.Perm (commands.filterMap Command.task?)) :
    AsIfSerial s.stores s.queue order (s.run commands).2.stores (s.run commands).2.queue := by
  have h : s.Represents s.ready ⟨s.stores, s.queue, (commands.filterMap Command.task? : List Task), 0⟩ :=
    ⟨hf, ha, rfl, rfl, by rw [hready, hwaiting]; rfl⟩
  obtain ⟨v, hsteps, hr, hp⟩ := exists_steps_run (Edits (commands.filterMap Command.task?)) hc h rfl
  have hended : v.Ended := ⟨hp, by simpa [hready', hwaiting'] using hr.running⟩
  rw [← hr.stores, ← hr.queue]
  exact ((forecast_holds hd s.stores s.queue).steps hsteps).asIfSerial hd hended horder

/-- The jobs of tasks that are queued one after the other, the first of them under the given ticket. -/
def jobsOf (ticket : Nat) : List Task → List Job
  | [] => []
  | task :: tasks => { ticket, plan := perform task } :: jobsOf (ticket + 1) tasks

theorem foldl_submit_of_running (h : s.stopped = false) (tasks : List Task) : ∃ queue,
    tasks.foldl submit s = { s with queue, ready := s.ready ++ jobsOf s.queue.submitted tasks } ∧
      queue.inFlight = s.queue.inFlight + tasks.length ∧ queue.completed = s.queue.completed ∧
      queue.failed = s.queue.failed := by
  induction tasks generalizing s with
  | nil => exact ⟨s.queue, by simp [jobsOf], rfl, rfl, rfl⟩
  | cons task tasks ih =>
    have hone : s.submit task = { s with
        queue := s.queue.submit
        ready := s.ready ++ [{ ticket := s.queue.submitted, plan := perform task }] } := by
      rw [submit, if_neg (by simp [h])]
    obtain ⟨queue, heq, hin, hcompleted, hfailed⟩ := ih (s := s.submit task) (by rw [hone]; exact h)
    rw [hone] at heq hin hcompleted hfailed
    refine ⟨queue, ?_, ?_, hcompleted, hfailed⟩
    · rw [List.foldl_cons, hone, heq, List.append_assoc]
      rfl
    · have hin' : queue.inFlight = s.queue.inFlight + 1 + tasks.length := hin
      rw [hin', List.length_cons]
      omega

/-- A service that is stopped drops them. -/
theorem foldl_submit_of_stopped (h : s.stopped = true) (tasks : List Task) : ∃ queue,
    tasks.foldl submit s = { s with queue } ∧ queue.inFlight = s.queue.inFlight ∧
      queue.completed = s.queue.completed ∧ queue.failed = s.queue.failed + tasks.length := by
  induction tasks generalizing s with
  | nil => exact ⟨s.queue, rfl, rfl, rfl, rfl⟩
  | cons task tasks ih =>
    have hone : s.submit task = { s with queue := s.queue.submit.abandon s.queue.submitted } := by
      rw [submit, if_pos h]
    obtain ⟨queue, heq, hin, hcompleted, hfailed⟩ := ih (s := s.submit task) (by rw [hone]; exact h)
    rw [hone] at heq hin hcompleted hfailed
    refine ⟨queue, ?_, hin, hcompleted, ?_⟩
    · rw [List.foldl_cons, hone, heq]
    · have hfailed' : queue.failed = s.queue.failed + 1 + tasks.length := hfailed
      rw [hfailed', List.length_cons]
      omega

theorem foldl_runJob_jobsOf (h : s.access.Open) (ticket : Nat) (tasks : List Task) : ∃ queue,
    (jobsOf ticket tasks).foldl runJob s = { s.setStores (performAll s.stores tasks).2 with queue } ∧
      queue.inFlight = s.queue.inFlight - tasks.length ∧
      queue.completed = s.queue.completed + (performAll s.stores tasks).1.countP (·.isOk) ∧
      queue.failed = s.queue.failed + (performAll s.stores tasks).1.countP (!·.isOk) := by
  induction tasks generalizing s ticket with
  | nil => exact ⟨s.queue, rfl, rfl, rfl, rfl⟩
  | cons task tasks ih =>
    let t : Stores := (s.stores.run (perform task)).2
    let settled : Queue := s.queue.settle ticket (s.stores.run (perform task)).1.isOk
    obtain ⟨queue, heq, hin, hcompleted, hfailed⟩ : ∃ queue,
        (jobsOf (ticket + 1) tasks).foldl runJob (s.runJob { ticket, plan := perform task }) =
          { s.setStores (performAll t tasks).2 with queue } ∧
        queue.inFlight = settled.inFlight - tasks.length ∧
        queue.completed = settled.completed + (performAll t tasks).1.countP (·.isOk) ∧
        queue.failed = settled.failed + (performAll t tasks).1.countP (!·.isOk) := by
      rw [runJob_of_open h]
      exact ih (s := { s.setStores t with queue := settled }) (h.setStores _) _
    refine ⟨queue, heq, ?_, ?_, ?_⟩
    · rw [hin, Queue.settle_inFlight, List.length_cons]
      omega
    · rw [hcompleted, Queue.settle_completed, performAll, List.countP_cons]
      cases (s.stores.run (perform task)).1.isOk <;> simp [t]; omega
    · rw [hfailed, Queue.settle_failed, performAll, List.countP_cons]
      cases (s.stores.run (perform task)).1.isOk <;> simp [t]; omega

/-- Tasks that are queued on an idle service are carried out one after the other when it settles. -/
theorem settle_foldl_submit (hs : s.Idle) (tasks : List Task) : ∃ queue,
    (tasks.foldl submit s).settle = { s.setStores (performAll s.stores tasks).2 with queue } ∧
      queue.inFlight = s.queue.inFlight ∧
      queue.completed = s.queue.completed + (performAll s.stores tasks).1.countP (·.isOk) ∧
      queue.failed = s.queue.failed + (performAll s.stores tasks).1.countP (!·.isOk) := by
  obtain ⟨queued, hqueued, hin, hcompleted, hfailed⟩ := foldl_submit_of_running hs.running tasks
  obtain ⟨queue, heq, hin', hcompleted', hfailed'⟩ :=
    foldl_runJob_jobsOf (s := { s with queue := queued }) hs.access s.queue.submitted tasks
  refine ⟨queue, ?_, ?_, ?_, ?_⟩
  · obtain ⟨access, settings, queue', ready, waiting, stopped⟩ := s
    cases hs.ready
    rw [hqueued]
    exact heq
  · rw [hin', hin]
    omega
  · rw [hcompleted', hcompleted]
    rfl
  · rw [hfailed', hfailed]
    rfl

end Service

end StaffIndex
