import Mathlib.Data.Multiset.Dedup
import Mathlib.Data.Multiset.MapFold
import Mathlib.Logic.Relation
import StaffIndex.Proofs.Indexing.Locality
import StaffIndex.Queue

/-!
# Tasks under way together

Tasks of different employees are submitted at any time and make their requests in any order, while others write the
records of employees that no task edits.

- `Forecast.Holds` says what all of it comes to: for each employee the rows that its task alone would leave, and how
  many tasks will have succeeded. No step makes a forecast wrong (`Forecast.Holds.step`), since a step of one task is
  nothing to the others.
- One task after the other is one of these ways (`exists_steps_performAll`), so all of them come to what it comes to
  (`asIfSerial_of_steps`). Only the order of the ids in a row is not told.
-/

namespace StaffIndex.Indexing

open Relation Stores

/-- A task that was submitted and has not ended. -/
structure Running where
  id : EmployeeId
  ticket : Nat
  rest : Plan IndexError Unit

/-- Tasks that are still to be submitted or to end, with the stores and the queue that they share. -/
structure Underway where
  stores : Stores
  queue : Queue
  pending : Multiset Task
  running : Multiset Running

/-- How a plan goes on. A request of several keys need not be answered at one go. -/
inductive Advances : Stores → Plan IndexError Unit → Stores → Plan IndexError Unit → Prop
  | ask (s : Stores) (r : Request) (next : r.Reply → Plan IndexError Unit) :
    Advances s (.ask r next) (s.answer r).2 (next (s.answer r).1)
  | append (s : Stores) (id : EmployeeId) (key : String) (keys : List String) (next : Unit → Plan IndexError Unit) :
    Advances s (.ask (.append id (key :: keys)) next) (s.answer (.append id [key])).2 (.ask (.append id keys) next)
  | remove (s : Stores) (id : EmployeeId) (key : String) (keys : List String) (next : Unit → Plan IndexError Unit) :
    Advances s (.ask (.remove id (key :: keys)) next) (s.answer (.remove id [key])).2 (.ask (.remove id keys) next)

/-- One thing that happens: a task is submitted, goes on or ends, or somebody writes records. -/
inductive Step (edited : EmployeeId → Prop) : Underway → Underway → Prop
  | submit (s : Stores) (q : Queue) (task : Task) (ps : Multiset Task) (rs : Multiset Running) :
    Step edited ⟨s, q, task ::ₘ ps, rs⟩ ⟨s, q.submit, ps, ⟨task.employeeId, q.submitted, perform task⟩ ::ₘ rs⟩
  | advance {s t : Stores} {p p' : Plan IndexError Unit} (h : Advances s p t p') (q : Queue) (id : EmployeeId)
    (ticket : Nat) (ps : Multiset Task) (rs : Multiset Running) :
    Step edited ⟨s, q, ps, ⟨id, ticket, p⟩ ::ₘ rs⟩ ⟨t, q, ps, ⟨id, ticket, p'⟩ ::ₘ rs⟩
  | done (s : Stores) (q : Queue) (id : EmployeeId) (ticket : Nat) (ps : Multiset Task) (rs : Multiset Running) :
    Step edited ⟨s, q, ps, ⟨id, ticket, .done ()⟩ ::ₘ rs⟩ ⟨s, q.settle ticket true, ps, rs⟩
  | fail (s : Stores) (q : Queue) (id : EmployeeId) (ticket : Nat) (e : IndexError) (ps : Multiset Task)
    (rs : Multiset Running) : Step edited ⟨s, q, ps, ⟨id, ticket, .fail e⟩ ::ₘ rs⟩ ⟨s, q.settle ticket false, ps, rs⟩
  | write (s : Stores) (q : Queue) (ps : Multiset Task) (rs : Multiset Running) (staff : Staff)
    (h : ∀ id, edited id → staff.find? id = s.staff.find? id) :
    Step edited ⟨s, q, ps, rs⟩ ⟨⟨s.index, staff⟩, q, ps, rs⟩

/-- What is still to be done for each employee. -/
def Underway.plans (u : Underway) : Multiset (EmployeeId × Plan IndexError Unit) :=
  u.pending.map (fun task => (task.employeeId, perform task)) + u.running.map fun r => (r.id, r.rest)

theorem Underway.plans_pending_cons (s : Stores) (q : Queue) (task : Task) (ps : Multiset Task)
    (rs : Multiset Running) : Underway.plans ⟨s, q, task ::ₘ ps, rs⟩ =
      (task.employeeId, perform task) ::ₘ Underway.plans ⟨s, q, ps, rs⟩ := by
  simp [Underway.plans, Multiset.cons_add]

theorem Underway.plans_running_cons (s : Stores) (q : Queue) (ps : Multiset Task) (r : Running)
    (rs : Multiset Running) : Underway.plans ⟨s, q, ps, r ::ₘ rs⟩ =
      (r.id, r.rest) ::ₘ Underway.plans ⟨s, q, ps, rs⟩ := by
  simp [Underway.plans, Multiset.add_cons]

/-- No task is pending or running any more. -/
structure Underway.Ended (u : Underway) : Prop where
  pending : u.pending = 0
  running : u.running = 0

variable {edited : EmployeeId → Prop} {id : EmployeeId} {s t : Stores} {q : Queue} {p p' : Plan IndexError Unit}
  {u v : Underway}

/-! ## Single plans -/

/-- Going on changes nothing in what the plan will come to. -/
theorem Advances.run_eq (h : Advances s p t p') : s.run p = t.run p' := by
  cases h <;> rfl

theorem Advances.onlyFor (h : Advances s p t p') (hp : p.OnlyFor edited id) : p'.OnlyFor edited id := by
  cases h with
  | ask r next => exact hp.2 _
  | append i key keys next => exact hp
  | remove i key keys next => exact hp

/-- Nor does it matter to other employees. -/
theorem Advances.agreeOn_of_ne (h : Advances s p t p') {i : EmployeeId} (hp : p.OnlyFor edited i) (hne : i ≠ id) :
    AgreeOn edited id s t := by
  cases h with
  | ask r next => exact agreeOn_answer_of_ne hp.1 hne s
  | append j key keys next => exact agreeOn_answer_of_ne (r := .append j [key]) hp.1 hne s
  | remove j key keys next => exact agreeOn_answer_of_ne (r := .remove j [key]) hp.1 hne s

/-! ## Forecasts -/

/-- For every employee the stores that its task leaves and whether it succeeds, and how many tasks do in the end. -/
structure Forecast where
  stores : EmployeeId → Stores
  succeeds : EmployeeId → Bool
  completed : Nat
  failed : Nat

/-- The plans are of different employees, and each would come to what is forecast if it ran alone from here; what is
forecast for the other employees is the case already. -/
structure Forecast.Holds (f : Forecast) (edited : EmployeeId → Prop) (s : Stores) (q : Queue)
    (plans : Multiset (EmployeeId × Plan IndexError Unit)) : Prop where
  distinct : (plans.map (·.1)).Nodup
  onlyFor : ∀ x ∈ plans, x.2.OnlyFor edited x.1
  run : ∀ x ∈ plans, (s.run x.2).1.isOk = f.succeeds x.1 ∧ AgreeOn edited x.1 (s.run x.2).2 (f.stores x.1)
  others : ∀ id ∉ plans.map (·.1), AgreeOn edited id s (f.stores id)
  completed : q.completed + plans.countP (fun x => f.succeeds x.1) = f.completed
  failed : q.failed + plans.countP (fun x => ¬ f.succeeds x.1) = f.failed

namespace Forecast.Holds

variable {f : Forecast} {rest : Multiset (EmployeeId × Plan IndexError Unit)}

/-- Every other employee sees no difference when a plan goes on. -/
theorem advance (h : f.Holds edited s q ((id, p) ::ₘ rest)) (ha : Advances s p t p') :
    f.Holds edited t q ((id, p') ::ₘ rest) := by
  have hp : p.OnlyFor edited id := h.onlyFor _ (Multiset.mem_cons_self _ _)
  have hid : id ∉ rest.map (·.1) := (Multiset.nodup_cons.1 (by simpa using h.distinct)).1
  constructor
  · simpa using h.distinct
  · intro x hx
    rcases Multiset.mem_cons.1 hx with rfl | hmem
    · exact ha.onlyFor hp
    · exact h.onlyFor x (Multiset.mem_cons_of_mem hmem)
  · intro x hx
    rcases Multiset.mem_cons.1 hx with rfl | hmem
    · rw [← ha.run_eq]
      exact h.run (id, p) (Multiset.mem_cons_self _ _)
    · -- The others run on stores that look the same to them, so they come to the same.
      have hne : id ≠ x.1 := fun heq => hid (heq ▸ Multiset.mem_map_of_mem _ hmem)
      obtain ⟨hok, hs⟩ := h.run x (Multiset.mem_cons_of_mem hmem)
      obtain ⟨heq, hagree⟩ := run_of_agreeOn (h.onlyFor x (Multiset.mem_cons_of_mem hmem)) (ha.agreeOn_of_ne hp hne)
      exact ⟨heq ▸ hok, hagree.symm.trans hs⟩
  · intro i hi
    simp only [Multiset.map_cons] at hi
    have hne : id ≠ i := by
      rintro rfl
      exact hi (Multiset.mem_cons_self _ _)
    exact (ha.agreeOn_of_ne hp hne).symm.trans (h.others i (by simpa using hi))
  · simpa [Multiset.countP_cons] using h.completed
  · simpa [Multiset.countP_cons] using h.failed

/-- An ended plan has come to what was forecast. -/
theorem settle (h : f.Holds edited s q ((id, p) ::ₘ rest)) {r : Except IndexError Unit} (hr : s.run p = (r, s))
    (ticket : Nat) : f.Holds edited s (q.settle ticket r.isOk) rest := by
  obtain ⟨hok, hs⟩ := h.run _ (Multiset.mem_cons_self _ _)
  rw [hr] at hok hs
  constructor
  · exact (Multiset.nodup_cons.1 (by simpa using h.distinct)).2
  · exact fun x hx => h.onlyFor x (Multiset.mem_cons_of_mem hx)
  · exact fun x hx => h.run x (Multiset.mem_cons_of_mem hx)
  · intro i hi
    by_cases heq : i = id
    · subst heq
      exact hs
    · exact h.others i (by simp only [Multiset.map_cons, Multiset.mem_cons, heq, hi, or_self, not_false_eq_true])
  · rw [← h.completed, Multiset.countP_cons, ← hok, Queue.settle_completed]
    cases r.isOk <;> simp; omega
  · rw [← h.failed, Multiset.countP_cons, ← hok, Queue.settle_failed]
    cases r.isOk <;> simp; omega

theorem write (h : f.Holds edited s q rest) {staff : Staff} (hs : ∀ id, edited id → staff.find? id = s.staff.find? id) :
    f.Holds edited ⟨s.index, staff⟩ q rest := by
  have hagree (i : EmployeeId) : AgreeOn edited i s ⟨s.index, staff⟩ := ⟨fun _ => rfl, fun hi => (hs i hi).symm⟩
  refine { h with run := fun x hx => ?_, others := fun i hi => (hagree i).symm.trans (h.others i hi) }
  obtain ⟨hok, hx'⟩ := h.run x hx
  obtain ⟨heq, ha⟩ := run_of_agreeOn (h.onlyFor x hx) (hagree x.1)
  exact ⟨heq ▸ hok, ha.symm.trans hx'⟩

/-- **One step.** What was forecast is forecast still. -/
theorem step (h : f.Holds edited u.stores u.queue u.plans) (hs : Step edited u v) :
    f.Holds edited v.stores v.queue v.plans := by
  cases hs with
  | submit s q task ps rs =>
    -- The plan of the task has been reckoned with since before it was submitted.
    rw [Underway.plans_pending_cons] at h
    rw [Underway.plans_running_cons]
    exact { h with completed := h.completed, failed := h.failed }
  | advance ha q id ticket ps rs =>
    rw [Underway.plans_running_cons] at h ⊢
    exact h.advance ha
  | done s q id ticket ps rs =>
    rw [Underway.plans_running_cons] at h
    exact h.settle (r := .ok ()) rfl ticket
  | fail s q id ticket e ps rs =>
    rw [Underway.plans_running_cons] at h
    exact h.settle (r := .error e) rfl ticket
  | write s q ps rs staff hstaff => exact h.write hstaff

/-- Any number of steps. -/
theorem steps (h : f.Holds edited u.stores u.queue u.plans) (hs : ReflTransGen (Step edited) u v) :
    f.Holds edited v.stores v.queue v.plans := by
  induction hs with
  | refl => exact h
  | tail _ hs ih => exact ih.step hs

end Forecast.Holds

/-! ## Complete runs -/

/-- A running task can be left to run alone to its end. -/
theorem steps_run (s : Stores) (q : Queue) (id : EmployeeId) (ticket : Nat) (p : Plan IndexError Unit)
    (ps : Multiset Task) (rs : Multiset Running) :
    ReflTransGen (Step edited) ⟨s, q, ps, ⟨id, ticket, p⟩ ::ₘ rs⟩
      ⟨(s.run p).2, q.settle ticket (s.run p).1.isOk, ps, rs⟩ := by
  induction p generalizing s with
  | done a => exact .single (.done s q id ticket ps rs)
  | fail e => exact .single (.fail s q id ticket e ps rs)
  | ask r next ih => exact .head (.advance (.ask s r next) q id ticket ps rs) (ih _ _)

/-- Carries out the tasks one after the other. -/
def performAll (s : Stores) : List Task → List (Except IndexError Unit) × Stores
  | [] => ([], s)
  | task :: tasks =>
    let (r, s) := s.run (perform task)
    let (rs, s) := performAll s tasks
    (r :: rs, s)

/-- One after the other is one of the ways. -/
theorem exists_steps_performAll (edited : EmployeeId → Prop) (s : Stores) (q : Queue) (tasks : List Task) : ∃ q',
    ReflTransGen (Step edited) ⟨s, q, tasks, 0⟩ ⟨(performAll s tasks).2, q', 0, 0⟩ ∧
      q'.completed = q.completed + (performAll s tasks).1.countP (·.isOk) ∧
      q'.failed = q.failed + (performAll s tasks).1.countP (!·.isOk) := by
  induction tasks generalizing s q with
  | nil => exact ⟨q, .refl, rfl, rfl⟩
  | cons task tasks ih =>
    obtain ⟨q', hsteps, hcompleted, hfailed⟩ :=
      ih (s.run (perform task)).2 (q.submit.settle q.submitted (s.run (perform task)).1.isOk)
    refine ⟨q', .head (.submit s q task tasks 0) ((steps_run ..).trans hsteps), ?_, ?_⟩
    · simp only [hcompleted, performAll, List.countP_cons, Queue.settle_completed, Queue.submit]
      cases (s.run (perform task)).1.isOk <;> simp; omega
    · simp only [hfailed, performAll, List.countP_cons, Queue.settle_failed, Queue.submit]
      cases (s.run (perform task)).1.isOk <;> simp; omega

/-! ## Agreement -/

/-- One of the tasks edits the employee. -/
def Edits (tasks : List Task) (id : EmployeeId) : Prop := ∃ changed values, Task.edit id changed values ∈ tasks

/-- Each task is forecast to do what it does to the stores as they are. -/
def forecast (s : Stores) (q : Queue) (tasks : List Task) : Forecast where
  stores id := (tasks.find? (·.employeeId = id)).elim s fun task => (s.run (perform task)).2
  succeeds id := (tasks.find? (·.employeeId = id)).elim true fun task => (s.run (perform task)).1.isOk
  completed := q.completed + tasks.countP fun task => (s.run (perform task)).1.isOk
  failed := q.failed + tasks.countP fun task => ¬ (s.run (perform task)).1.isOk

variable {tasks : List Task}

theorem find?_employeeId (hd : (tasks.map Task.employeeId).Nodup) {task : Task} (h : task ∈ tasks) :
    tasks.find? (·.employeeId = task.employeeId) = some task := by
  obtain ⟨found, hf⟩ : ∃ found, tasks.find? (·.employeeId = task.employeeId) = some found :=
    Option.isSome_iff_exists.1 (List.find?_isSome.2 ⟨task, h, by simp⟩)
  have hid : found.employeeId = task.employeeId := by simpa using List.find?_some hf
  rw [hf, List.inj_on_of_nodup_map hd (List.mem_of_find?_eq_some hf) h hid]

theorem forecast_of_mem (hd : (tasks.map Task.employeeId).Nodup) {task : Task} (h : task ∈ tasks) (s : Stores)
    (q : Queue) : (forecast s q tasks).stores task.employeeId = (s.run (perform task)).2 ∧
      (forecast s q tasks).succeeds task.employeeId = (s.run (perform task)).1.isOk := by
  simp only [forecast, find?_employeeId hd h, Option.elim, and_self]

theorem forecast_of_not_mem (h : id ∉ tasks.map Task.employeeId) (s : Stores) (q : Queue) :
    (forecast s q tasks).stores id = s := by
  have hnone : tasks.find? (·.employeeId = id) = none :=
    List.find?_eq_none.2 fun task ht he => h (List.mem_map.2 ⟨task, ht, by simpa using he⟩)
  simp only [forecast, hnone, Option.elim]

theorem plans_start (s : Stores) (q : Queue) (tasks : List Task) : Underway.plans ⟨s, q, tasks, 0⟩ =
    ↑(tasks.map fun task => (task.employeeId, perform task)) := by
  simp [Underway.plans]

/-- The forecast is right before anything has happened. -/
theorem forecast_holds (hd : (tasks.map Task.employeeId).Nodup) (s : Stores) (q : Queue) :
    (forecast s q tasks).Holds (Edits tasks) s q (Underway.plans ⟨s, q, tasks, 0⟩) := by
  have hids : (Underway.plans ⟨s, q, tasks, 0⟩).map (·.1) = ↑(tasks.map Task.employeeId) := by
    rw [plans_start, Multiset.map_coe, List.map_map]
    rfl
  constructor
  · rw [hids]
    exact hd
  · intro x hx
    rw [plans_start, Multiset.mem_coe, List.mem_map] at hx
    obtain ⟨task, ht, rfl⟩ := hx
    exact perform_onlyFor fun id changed values he => ⟨changed, values, he ▸ ht⟩
  · intro x hx
    rw [plans_start, Multiset.mem_coe, List.mem_map] at hx
    obtain ⟨task, ht, rfl⟩ := hx
    obtain ⟨hs, hok⟩ := forecast_of_mem hd ht s q
    exact ⟨hok.symm, by rw [hs]; exact .refl _⟩
  · intro id hid
    rw [hids, Multiset.mem_coe] at hid
    rw [forecast_of_not_mem hid]
    exact .refl s
  · rw [plans_start, Multiset.coe_countP, List.countP_map]
    refine congrArg (q.completed + ·) (List.countP_congr fun task ht => ?_)
    simp [(forecast_of_mem hd ht s q).2]
  · rw [plans_start, Multiset.coe_countP, List.countP_map]
    refine congrArg (q.failed + ·) (List.countP_congr fun task ht => ?_)
    simp [(forecast_of_mem hd ht s q).2]

/-- An ended run has come to what was forecast. -/
theorem Forecast.Holds.of_ended {f : Forecast} (h : f.Holds edited u.stores u.queue u.plans) (he : u.Ended) :
    (∀ id key, (u.stores.index.idsAt key).count id = ((f.stores id).index.idsAt key).count id) ∧
      u.queue.completed = f.completed ∧ u.queue.failed = f.failed := by
  have hplans : u.plans = 0 := by simp [Underway.plans, he.pending, he.running]
  rw [hplans] at h
  exact ⟨fun id key => (h.others id (by simp)).count key, by simpa using h.completed, by simpa using h.failed⟩

/-- As after the tasks one after the other, but for the order of the ids in a row. -/
structure AsIfSerial (s : Stores) (q : Queue) (order : List Task) (t : Stores) (q' : Queue) : Prop where
  rows : ∀ key, (t.index.idsAt key).Perm ((performAll s order).2.index.idsAt key)
  completed : q'.completed = q.completed + (performAll s order).1.countP (·.isOk)
  failed : q'.failed = q.failed + (performAll s order).1.countP (!·.isOk)

/-- What was forecast for the tasks is what they come to one after the other. -/
theorem Forecast.Holds.asIfSerial (hd : (tasks.map Task.employeeId).Nodup)
    (h : (forecast s q tasks).Holds (Edits tasks) u.stores u.queue u.plans) (he : u.Ended) {order : List Task}
    (horder : order.Perm tasks) : AsIfSerial s q order u.stores u.queue := by
  obtain ⟨hrows, hcompleted, hfailed⟩ := h.of_ended he
  obtain ⟨q', hserial, hcompleted', hfailed'⟩ := exists_steps_performAll (Edits tasks) s q order
  rw [Multiset.coe_eq_coe.2 horder] at hserial
  have hstart : (forecast s q tasks).Holds (Edits tasks) s q (Underway.plans ⟨s, q, tasks, 0⟩) := forecast_holds hd s q
  obtain ⟨hrows', hc, hf⟩ := (hstart.steps hserial).of_ended ⟨rfl, rfl⟩
  constructor
  · exact fun key => List.perm_iff_count.2 fun id => (hrows id key).trans (hrows' id key).symm
  · rw [hcompleted, ← hc, hcompleted']
  · rw [hfailed, ← hf, hfailed']

/-- **Tasks of different employees.** In whatever way the tasks were submitted and made their requests, once all have
ended the rows have the same ids, each as often, as after the tasks one after the other in any order, and as many tasks
have completed and failed. -/
theorem asIfSerial_of_steps {order : List Task} (hd : (tasks.map Task.employeeId).Nodup)
    (hsteps : ReflTransGen (Step (Edits tasks)) ⟨s, q, tasks, 0⟩ u) (hended : u.Ended) (horder : order.Perm tasks) :
    AsIfSerial s q order u.stores u.queue := by
  have hstart : (forecast s q tasks).Holds (Edits tasks) s q (Underway.plans ⟨s, q, tasks, 0⟩) := forecast_holds hd s q
  exact (hstart.steps hsteps).asIfSerial hd hended horder

/-- Anna is filed under her team. -/
def annaInCore : Stores where
  index := Index.empty.append "e1" ["core"]
  staff := Staff.empty.insert { id := "e1", name := "Anna", surname := "Orlova", team := some "Core" }

/-- Anna's team gets another spelling, and Boris is filed under it. -/
def sharedTeam : List Task := [.edit "e1" [.team] ["CORE"], .add "e2" ["Core"]]

/-- Boris was filed while Anna was taken out, and stands before her. -/
def borisFirst : Underway where
  stores :=
    { index := ((annaInCore.index.remove "e1" ["core"]).append "e2" ["core"]).append "e1" ["core"]
      staff := annaInCore.staff }
  queue := ((Queue.submit {}).submit.settle 1 true).settle 0 true
  pending := 0
  running := 0

theorem steps_borisFirst : ReflTransGen (Step (Edits sharedTeam)) ⟨annaInCore, {}, sharedTeam, 0⟩ borisFirst := by
  refine .head (.submit annaInCore {} (.edit "e1" [.team] ["CORE"]) {.add "e2" ["Core"]} 0) ?_
  refine .head (.advance (.ask annaInCore (.values "e1" [.team]) _) ..) ?_
  refine .head (.advance (.ask annaInCore (.remove "e1" ["core"]) fun _ => .request (.append "e1" ["core"])) ..) ?_
  refine .head (.submit _ _ (.add "e2" ["Core"]) 0 _) ?_
  exact (steps_run ..).trans (steps_run ..)

theorem asIfSerial_of_steps_borisFirst :
    borisFirst.stores.index.idsAt "core" = ["e2", "e1"] ∧
      (performAll annaInCore sharedTeam).2.index.idsAt "core" = ["e1", "e2"] ∧
      AsIfSerial annaInCore {} sharedTeam borisFirst.stores borisFirst.queue :=
  ⟨by decide +kernel, by decide +kernel, asIfSerial_of_steps (by decide) steps_borisFirst ⟨rfl, rfl⟩ (.refl _)⟩

end StaffIndex.Indexing
