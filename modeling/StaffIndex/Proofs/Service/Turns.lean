import StaffIndex.Service.Command

/-!
# Jobs at any time

A service only lets its jobs move when it settles, and then one after the other. Here they take turns with the callers and
with each other in any way: a turn is a command, or the next request of any job that can move, or only the first key of
that request (`Turn`), and a course is what comes of a list of turns (`course`).

So a run of commands is a course, that in which no job is given a turn (`course_map_command`), and to settle is to give
the first job its turn until none is left (`exists_course_settle`).
-/

namespace StaffIndex

/-- The plan with the first key of its next request asked for by itself. -/
def Plan.unbatched {ε α : Type} : Plan ε α → Plan ε α
  | .ask (.append id (key :: keys)) next => .ask (.append id [key]) fun _ => .ask (.append id keys) next
  | .ask (.remove id (key :: keys)) next => .ask (.remove id [key]) fun _ => .ask (.remove id keys) next
  | p => p

inductive Turn where
  | command (c : Command)
  /-- The job at that place among those that can move makes its next request, or ends. -/
  | job (i : Nat)
  /-- The job there is to make its next request key by key. -/
  | unbatch (i : Nat)

namespace Service

/-- A job makes its next request, or ends. It is given back if it can move after that. -/
def goOn (s : Service) (job : Job) : Option Job × Service :=
  match job.plan with
  | .done () => (none, { s with queue := s.queue.settle job.ticket true })
  | .fail _ => (none, { s with queue := s.queue.settle job.ticket false })
  | .ask r next => match if job.admitted then some s.access else s.access.pass? r with
    | none => (none, { s with waiting := s.waiting ++ [{ ticket := job.ticket, plan := .ask r next }] })
    | some access => match access.answer r with
      | (.reply x, access) => (some { ticket := job.ticket, plan := next x }, { s with access })
      | (.error _, access) => (none, { s with access, queue := s.queue.settle job.ticket false })
      | (.crash, access) => (none, { s with access, queue := s.queue.abandon job.ticket })

/-- The service after a turn. Where there is no job nothing happens. -/
def turn (s : Service) : Turn → Service
  | .command c => (s.step c).2
  | .job i => match s.ready[i]? with
    | none => s
    | some job =>
      let (job?, s') := s.goOn job
      { s' with ready := s.ready.take i ++ job?.toList ++ s.ready.drop (i + 1) }
  | .unbatch i => { s with ready := s.ready.modify i fun job => { job with plan := job.plan.unbatched } }

def course (s : Service) (turns : List Turn) : Service := turns.foldl turn s

variable {s : Service} {job : Job}

theorem course_append (s : Service) (turns more : List Turn) :
    s.course (turns ++ more) = (s.course turns).course more :=
  List.foldl_append

theorem course_map_command (s : Service) (commands : List Command) :
    s.course (commands.map .command) = (s.run commands).2 := by
  induction commands generalizing s with
  | nil => rfl
  | cons c cs ih => exact ih (s.step c).2

/-! ## Settling -/

/-- A job that runs makes one request after the other. -/
theorem runJob_eq_goOn (s : Service) (job : Job) :
    s.runJob job = (s.goOn job).1.elim (s.goOn job).2 (s.goOn job).2.runJob := by
  obtain ⟨ticket, plan, admitted⟩ := job
  cases plan with
  | done a => rfl
  | fail e => rfl
  | ask r next =>
    simp only [runJob, goOn, Access.advance]
    cases hpass : if admitted then some s.access else s.access.pass? r with
    | none => rfl
    | some access =>
      dsimp only
      rcases access.answer r with ⟨x | e | _, b⟩ <;> rfl

theorem turn_job_zero (s : Service) (job : Job) (rest : List Job) :
    turn { s with ready := job :: rest } (.job 0) =
      { (s.goOn job).2 with ready := (s.goOn job).1.toList ++ rest } := by
  obtain ⟨ticket, plan, admitted⟩ := job
  cases plan with
  | done a => rfl
  | fail e => rfl
  | ask r next =>
    simp only [turn, goOn, List.getElem?_cons_zero]
    cases if admitted then some s.access else s.access.pass? r with
    | none => rfl
    | some access =>
      dsimp only
      rcases access.answer r with ⟨x | e | _, b⟩ <;> rfl

theorem exists_course_runJob (s : Service) (job : Job) (rest : List Job) :
    ∃ n, course { s with ready := job :: rest } (List.replicate n (.job 0)) = { s.runJob job with ready := rest } := by
  obtain ⟨ticket, plan, admitted⟩ := job
  induction plan generalizing s admitted with
  | done a => exact ⟨1, rfl⟩
  | fail e => exact ⟨1, rfl⟩
  | ask r next ih =>
    have hturn := turn_job_zero s ⟨ticket, .ask r next, admitted⟩ rest
    rw [runJob_eq_goOn]
    rcases hgo : s.goOn ⟨ticket, .ask r next, admitted⟩ with ⟨_ | job, t⟩
    · rw [hgo] at hturn
      exact ⟨1, hturn⟩
    · rw [hgo] at hturn
      -- a job that can move after a request has got a reply to it
      obtain ⟨x, rfl⟩ : ∃ x, job = { ticket, plan := next x } := by
        simp only [goOn] at hgo
        split at hgo
        · cases hgo
        · split at hgo
          · cases hgo
            exact ⟨_, rfl⟩
          · cases hgo
          · cases hgo
      obtain ⟨n, hn⟩ := ih x t false
      refine ⟨n + 1, ?_⟩
      rw [List.replicate_succ, course, List.foldl_cons, hturn]
      exact hn

theorem runJob_ready (s : Service) (job : Job) (ready : List Job) :
    { s with ready }.runJob job = { s.runJob job with ready } := by
  unfold runJob
  dsimp only
  rcases s.access.advance job.admitted job.plan with ⟨(_ | _) | _ | _, access⟩ <;> rfl

theorem foldl_runJob_ready (s : Service) (jobs ready : List Job) :
    jobs.foldl runJob { s with ready } = { jobs.foldl runJob s with ready } := by
  induction jobs generalizing s with
  | nil => rfl
  | cons job jobs ih => rw [List.foldl_cons, List.foldl_cons, runJob_ready, ih]

theorem exists_course_foldl_runJob (s : Service) (jobs : List Job) :
    ∃ n, course { s with ready := jobs } (List.replicate n (.job 0)) = { jobs.foldl runJob s with ready := [] } := by
  induction jobs generalizing s with
  | nil => exact ⟨0, rfl⟩
  | cons job jobs ih =>
    obtain ⟨n, hn⟩ := exists_course_runJob s job jobs
    obtain ⟨m, hm⟩ := ih (s.runJob job)
    refine ⟨n + m, ?_⟩
    rw [← List.replicate_append_replicate, course_append, hn]
    exact hm

/-- **Settling is one of the courses.** The first job is given its turn over and over again. -/
theorem exists_course_settle (s : Service) : ∃ n, s.settle = s.course (List.replicate n (.job 0)) := by
  obtain ⟨n, hn⟩ := exists_course_foldl_runJob s s.ready
  refine ⟨n, ?_⟩
  rw [settle, foldl_runJob_ready]
  exact hn.symm

end Service

end StaffIndex
