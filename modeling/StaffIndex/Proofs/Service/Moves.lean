import Mathlib.Logic.Relation
import StaffIndex.Proofs.Indexing.Provenance
import StaffIndex.Service.Command

/-!
# The moves of a service

Whatever a service is asked to do comes down to a few moves: it runs plans for its callers, queues tasks and lets the
jobs run, records are written, and the queue, the faults and the gate are seen to (`moves_run`). So what every move
preserves holds after every run.

The plans and tasks of a move file only what is allowed. Of a command this has to be asked just if it comes with a
request or a task of its own (`Command.FilesOnly`): the hooks and the seed only file lowered texts, and only under
proper ids.
-/

namespace StaffIndex

open Relation

/-- The command files only what is allowed, whatever the stores reply. -/
def Command.FilesOnly (allowed : EmployeeId → String → Prop) : Command → Prop
  | .request r => r.FilesOnly allowed
  | .addEntry id values => (Indexing.add id values).FilesOnly allowed
  | .editEntry id changed values => (Indexing.edit id changed values).FilesOnly allowed
  | .perform task => (Indexing.perform task).FilesOnly allowed
  | .submit task => (Indexing.perform task).FilesOnly allowed
  | _ => True

theorem Command.filesOnly_of_forall {allowed : EmployeeId → String → Prop} (h : ∀ id key, allowed id key)
    (c : Command) : c.FilesOnly allowed := by
  cases c with
  | request r => exact Request.filesOnly_of_forall h r
  | addEntry id values => exact Plan.filesOnly_of_forall h _
  | editEntry id changed values => exact Plan.filesOnly_of_forall h _
  | perform task => exact Plan.filesOnly_of_forall h _
  | submit task => exact Plan.filesOnly_of_forall h _
  | _ => exact trivial

namespace Service

/-- One thing that a service does. -/
inductive Move (allowed : EmployeeId → String → Prop) : Service → Service → Prop
  | call {ε α : Type} [RaisedByStore ε] (s : Service) (plan : Plan ε α) (h : plan.FilesOnly allowed) :
    Move allowed s (s.call plan).2
  | submit (s : Service) (task : Task) (h : (Indexing.perform task).FilesOnly allowed) : Move allowed s (s.submit task)
  | settle (s : Service) : Move allowed s s.settle
  | write (s : Service) (staff : Staff) : Move allowed s (s.setStaff staff)
  | drain (s : Service) : Move allowed s { s with queue := s.queue.drain }
  | setFaults (s : Service) (faults : Faults) : Move allowed s { s with access.faults := faults }
  | permit (s : Service) (n : Nat) : Move allowed s (s.permit n)

def Moves (allowed : EmployeeId → String → Prop) : Service → Service → Prop := ReflTransGen (Move allowed)

variable {allowed : EmployeeId → String → Prop} {s t : Service}

/-! ## Hooks and seeds -/

section Hooks

variable (hallowed : ∀ id ≠ "", ∀ text, allowed id (Key.ofText text))

theorem moves_submit? (s : Service) {task? : Option Task}
    (h : ∀ task ∈ task?, (Indexing.perform task).FilesOnly allowed) : Moves allowed s (s.submit? task?).2 := by
  cases task? with
  | none => exact .refl
  | some task => exact .single (.submit s task (h task rfl))

include hallowed

theorem moves_employeeCreated (s : Service) (e : Employee) : Moves allowed s (s.employeeCreated e).2 := by
  rw [employeeCreated]
  split
  · exact .refl
  · next h => exact moves_submit? s fun _ => Indexing.created_filesOnly hallowed h

theorem moves_employeeEdited (s : Service) (id : EmployeeId) (p : Patch) :
    Moves allowed s (s.employeeEdited id p).2 := by
  rw [employeeEdited]
  split
  · exact .refl
  · next h => exact moves_submit? s fun _ => Indexing.edited_filesOnly hallowed h

theorem moves_foldl_seedOne (s : Service) (employees : List Employee) :
    Moves allowed s (employees.foldl seedOne s) := by
  induction employees generalizing s with
  | nil => exact .refl
  | cons e employees ih =>
    have hcreated := moves_employeeCreated hallowed (s.setStaff (s.staff.insert e)) e
    exact .head (.write s (s.staff.insert e)) (hcreated.trans (ih _))

theorem moves_seed {path : String} {contents : Except FileError String} (h : s.seed path contents = .ok t) :
    Moves allowed s t := by
  unfold seed at h
  split at h
  · cases h
  · split at h
    · cases h
    · cases h
      exact moves_foldl_seedOne hallowed s _

end Hooks

/-- The hook of a deletion queues a deletion, and those file nothing. -/
theorem moves_employeeDeleted (s : Service) (id : EmployeeId) : Moves allowed s (s.employeeDeleted id).2 := by
  have hcall : Move allowed s (s.call (Indexing.deleted id)).2 := .call s _ Indexing.deleted_filesOnly
  rw [employeeDeleted]
  split
  · next task u h =>
    obtain ⟨values, rfl⟩ : ∃ values, task = .delete id values := by
      unfold call at h
      split at h
      · next hadvance =>
        cases h
        exact Indexing.eq_delete_of_advance hadvance
      · cases h
      · cases h
    rw [h] at hcall
    exact .tail (.single hcall) (.submit u _ Indexing.delete_filesOnly)
  all_goals
    next h =>
      rw [h] at hcall
      exact .single hcall

/-! ## Requests over HTTP -/

theorem moves_respond (s : Service) {plan : Plan SearchError (List Summary)} (h : plan.FilesOnly allowed) :
    Moves allowed s (s.respond plan).2 := by
  have hcall : Move allowed s (s.call plan).2 := .call s plan h
  rw [respond]
  split <;> next hending => exact .single (by rwa [hending] at hcall)

theorem moves_respondTo {α : Type} (s : Service) (body : Except Http.Rejection α)
    {search : α → Plan SearchError (List Summary)} (h : ∀ query, (search query).FilesOnly allowed) :
    Moves allowed s (s.respondTo body search).2 := by
  cases body with
  | error r => exact .refl
  | ok query => exact moves_respond s (h query)

theorem moves_serve (s : Service) (request : Http.Request) : Moves allowed s (s.serve request).2 := by
  rw [serve]
  split
  · exact .refl
  · next route _ =>
    split
    · cases route with
      | basic => exact moves_respondTo s _ fun _ => Search.exact_filesOnly
      | full => exact moves_respondTo s _ fun _ => Search.ranked_filesOnly
      | suggest => exact moves_respondTo s _ fun _ => Search.suggest_filesOnly
      | clearTasks => exact .single (.drain s)
      | stats => exact .refl
    · exact .refl

/-! ## Commands -/

section Commands

variable (hallowed : ∀ id ≠ "", ∀ text, allowed id (Key.ofText text))

include hallowed

theorem moves_step (s : Service) {c : Command} (hc : c.FilesOnly allowed) : Moves allowed s (s.step c).2 := by
  cases c with
  | insert e => exact .single (.write s _)
  | removeEmployee id => exact .single (.write s _)
  | update id p =>
    rw [step]
    split
    · exact .single (.write s _)
    · exact .refl
  | request r => exact .single (.call s _ ⟨hc, fun _ => trivial⟩)
  | row key => exact .refl
  | rows => exact .refl
  | addEntry id values => exact .single (.call s _ hc)
  | deleteEntry id values => exact .single (.call s _ Indexing.delete_filesOnly)
  | editEntry id changed values => exact .single (.call s _ hc)
  | perform task => exact .single (.call s _ hc)
  | created e => exact moves_employeeCreated hallowed s e
  | deleted id => exact moves_employeeDeleted s id
  | edited id p => exact moves_employeeEdited hallowed s id p
  | submit task => exact .single (.submit s task hc)
  | settle => exact .single (.settle s)
  | drain => exact .single (.drain s)
  | stats => exact .refl
  | exact query => exact .single (.call s _ Search.exact_filesOnly)
  | suggest query => exact .single (.call s _ Search.suggest_filesOnly)
  | ranked query limit => exact .single (.call s _ Search.ranked_filesOnly)
  | http request =>
    have h : Moves allowed s (s.serve request).2 := moves_serve s request
    rw [step]
    split <;> next hserve => rwa [hserve] at h
  | seed path contents =>
    rw [step]
    split
    · next h => exact moves_seed hallowed h
    · exact .refl
  | fail call e => exact .single (.setFaults s _)
  | crash call => exact .single (.setFaults s _)
  | heal => exact .single (.setFaults s _)
  | permit n => exact .single (.permit s n)

/-- **A run of the service** is a sequence of moves. -/
theorem moves_run (s : Service) {commands : List Command} (hc : ∀ c ∈ commands, c.FilesOnly allowed) :
    Moves allowed s (s.run commands).2 := by
  induction commands generalizing s with
  | nil => exact .refl
  | cons c cs ih =>
    rw [List.forall_mem_cons] at hc
    exact (moves_step hallowed s hc.1).trans (ih _ hc.2)

end Commands

end Service

end StaffIndex
