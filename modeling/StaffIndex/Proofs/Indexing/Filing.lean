import Mathlib.Algebra.BigOperators.Group.Multiset.Basic
import StaffIndex.Proofs.Indexing.Interleaving

/-!
# Adds in any order

An add never undoes what another task has done, not even one for the same employee. So in whatever way adds are
submitted and make their requests, once all have ended the rows are those that the adds leave one after the other, but
for the order of the new ids in a row (`asIfSerial_of_adds`, `isPrefix_of_adds`).

- A plan that only files ends well, and what it puts behind the ids of a row does not depend on the stores
  (`Plan.OnlyFiles.idsAt_run`).
- What stands in a row and what is still to be filed there make up one multiset, which no step changes
  (`Filing.Holds.step`).
- What stands in a row stays there in front (`Filing.Holds.isPrefix_step`).
-/

namespace StaffIndex

open Stores

/-! ## Plans that only file -/

namespace Plan

/-- The plan makes no requests but appends, and does not fail. -/
inductive OnlyFiles : Plan IndexError Unit → Prop
  | done : OnlyFiles (.done ())
  | append (id : EmployeeId) (keys : List String) {next : Unit → Plan IndexError Unit} (h : OnlyFiles (next ())) :
    OnlyFiles (.ask (.append id keys) next)

/-- The ids that the plan puts into an empty row. -/
def filings (p : Plan IndexError Unit) (key : String) : List EmployeeId := (Stores.empty.run p).2.index.idsAt key

namespace OnlyFiles

variable {p : Plan IndexError Unit}

theorem idsAt_run (h : p.OnlyFiles) (s : Stores) (key : String) :
    (s.run p).2.index.idsAt key = s.index.idsAt key ++ p.filings key := by
  induction h generalizing s with
  | done => exact (List.append_nil _).symm
  | @append id keys next h ih =>
    have hs : (s.run (.ask (.append id keys) next)).2 = (run ⟨s.index.append id keys, s.staff⟩ (next ())).2 := rfl
    have hnew : (Plan.ask (.append id keys) next).filings key =
        (Index.empty.append id keys).idsAt key ++ (next ()).filings key := ih ⟨Index.empty.append id keys, .empty⟩
    rw [hs, ih, hnew, Index.idsAt_append, Index.idsAt_append, Index.idsAt_empty, List.nil_append, List.append_assoc]

end OnlyFiles

end Plan

namespace Indexing

open Relation

variable {edited : EmployeeId → Prop} {s t : Stores} {q : Queue} {p p' : Plan IndexError Unit} {u v : Underway}

theorem onlyFiles_add (id : EmployeeId) (values : List String) : (add id values).OnlyFiles := by
  unfold add
  split
  · exact .done
  · exact .append id _ .done

theorem Advances.onlyFiles (h : Advances s p t p') (hp : p.OnlyFiles) : p'.OnlyFiles := by
  cases h with
  | ask r next => cases hp with | append id keys h => exact h
  | append id key keys next => cases hp with | append _ _ h => exact .append id keys h
  | remove id key keys next => cases hp

/-- What is filed comes behind what was there. -/
theorem Advances.isPrefix (h : Advances s p t p') (hp : p.OnlyFiles) (key : String) :
    s.index.idsAt key <+: t.index.idsAt key := by
  have hbehind (id : EmployeeId) (keys : List String) : s.index.idsAt key <+: (s.index.append id keys).idsAt key := by
    rw [Index.idsAt_append]
    exact List.prefix_append _ _
  cases h with
  | ask r next => cases hp with | append id keys h => exact hbehind id keys
  | append id first keys next => exact hbehind id [first]
  | remove id first keys next => cases hp

/-! ## What is filed and what is still to be -/

/-- What tasks that only file will have come to: the ids of every row, and how many of the tasks have succeeded. -/
structure Filing where
  rows : String → Multiset EmployeeId
  completed : Nat
  failed : Nat

/-- All plans only file, and with what they are still to file the rows will be those; all of them will succeed. -/
structure Filing.Holds (f : Filing) (s : Stores) (q : Queue)
    (plans : Multiset (EmployeeId × Plan IndexError Unit)) : Prop where
  onlyFiles : ∀ x ∈ plans, x.2.OnlyFiles
  rows : ∀ key, ↑(s.index.idsAt key) + (plans.map fun x => (x.2.filings key : Multiset EmployeeId)).sum = f.rows key
  completed : q.completed + plans.card = f.completed
  failed : q.failed = f.failed

namespace Filing.Holds

variable {f : Filing} {rest : Multiset (EmployeeId × Plan IndexError Unit)} {id : EmployeeId}

/-- What a plan files when it goes on it is no longer to file. -/
theorem advance (h : f.Holds s q ((id, p) ::ₘ rest)) (ha : Advances s p t p') : f.Holds t q ((id, p') ::ₘ rest) := by
  have hp : p.OnlyFiles := h.onlyFiles _ (Multiset.mem_cons_self _ _)
  have hrow (key : String) : t.index.idsAt key ++ p'.filings key = s.index.idsAt key ++ p.filings key := by
    rw [← (ha.onlyFiles hp).idsAt_run, ← hp.idsAt_run, ha.run_eq]
  constructor
  · intro x hx
    rcases Multiset.mem_cons.1 hx with rfl | hmem
    · exact ha.onlyFiles hp
    · exact h.onlyFiles x (Multiset.mem_cons_of_mem hmem)
  · intro key
    rw [← h.rows key, Multiset.map_cons, Multiset.sum_cons, Multiset.map_cons, Multiset.sum_cons, ← add_assoc,
      ← add_assoc, Multiset.coe_add, Multiset.coe_add, hrow]
  · rw [← h.completed, Multiset.card_cons, Multiset.card_cons]
  · exact h.failed

/-- A plan that is done has nothing left to file. -/
theorem settle (h : f.Holds s q ((id, .done ()) ::ₘ rest)) (ticket : Nat) :
    f.Holds s (q.settle ticket true) rest := by
  constructor
  · exact fun x hx => h.onlyFiles x (Multiset.mem_cons_of_mem hx)
  · intro key
    have hnone : (Plan.done () : Plan IndexError Unit).filings key = [] := rfl
    rw [← h.rows key, Multiset.map_cons, Multiset.sum_cons, hnone, Multiset.coe_nil, zero_add]
  · rw [← h.completed, Queue.settle_completed, Multiset.card_cons, if_pos rfl]
    omega
  · rw [← h.failed, Queue.settle_failed, if_pos rfl]

/-- **One step.** The rows will be the same. -/
theorem step (h : f.Holds u.stores u.queue u.plans) (hs : Step edited u v) : f.Holds v.stores v.queue v.plans := by
  cases hs with
  | submit s q task ps rs =>
    rw [Underway.plans_pending_cons] at h
    rw [Underway.plans_running_cons]
    exact ⟨h.onlyFiles, h.rows, h.completed, h.failed⟩
  | advance ha q id ticket ps rs =>
    rw [Underway.plans_running_cons] at h ⊢
    exact h.advance ha
  | done s q id ticket ps rs =>
    rw [Underway.plans_running_cons] at h
    exact h.settle ticket
  | fail s q id ticket e ps rs =>
    rw [Underway.plans_running_cons] at h
    nomatch h.onlyFiles _ (Multiset.mem_cons_self _ _)
  | write s q ps rs staff hstaff => exact ⟨h.onlyFiles, h.rows, h.completed, h.failed⟩

/-- Any number of steps. -/
theorem steps (h : f.Holds u.stores u.queue u.plans) (hs : ReflTransGen (Step edited) u v) :
    f.Holds v.stores v.queue v.plans := by
  induction hs with
  | refl => exact h
  | tail _ hs ih => exact ih.step hs

/-- The rows only grow behind. -/
theorem isPrefix_step (h : f.Holds u.stores u.queue u.plans) (hs : Step edited u v) (key : String) :
    u.stores.index.idsAt key <+: v.stores.index.idsAt key := by
  cases hs with
  | submit s q task ps rs => exact List.prefix_refl _
  | advance ha q id ticket ps rs =>
    rw [Underway.plans_running_cons] at h
    exact ha.isPrefix (h.onlyFiles _ (Multiset.mem_cons_self _ _)) key
  | done s q id ticket ps rs => exact List.prefix_refl _
  | fail s q id ticket e ps rs => exact List.prefix_refl _
  | write s q ps rs staff hstaff => exact List.prefix_refl _

theorem isPrefix_steps (h : f.Holds u.stores u.queue u.plans) (hs : ReflTransGen (Step edited) u v) (key : String) :
    u.stores.index.idsAt key <+: v.stores.index.idsAt key := by
  induction hs with
  | refl => exact List.prefix_refl _
  | tail hsteps hs ih => exact ih.trans ((h.steps hsteps).isPrefix_step hs key)

/-- At the end nothing is left to file. -/
theorem of_ended (h : f.Holds u.stores u.queue u.plans) (he : u.Ended) :
    (∀ key, (u.stores.index.idsAt key : Multiset EmployeeId) = f.rows key) ∧ u.queue.completed = f.completed ∧
      u.queue.failed = f.failed := by
  have hplans : u.plans = 0 := by simp [Underway.plans, he.pending, he.running]
  rw [hplans] at h
  exact ⟨fun key => by simpa using h.rows key, by simpa using h.completed, h.failed⟩

end Filing.Holds

/-! ## Adds -/

/-- What adds come to from here. -/
def filing (s : Stores) (q : Queue) (tasks : List Task) : Filing where
  rows key := ↑(s.index.idsAt key) + (tasks.map fun task => ((perform task).filings key : Multiset EmployeeId)).sum
  completed := q.completed + tasks.length
  failed := q.failed

theorem filing_holds {tasks : List Task} (ha : ∀ task ∈ tasks, (perform task).OnlyFiles) (s : Stores) (q : Queue) :
    (filing s q tasks).Holds s q (Underway.plans ⟨s, q, tasks, 0⟩) := by
  rw [plans_start]
  constructor
  · intro x hx
    obtain ⟨task, ht, rfl⟩ := List.mem_map.1 (Multiset.mem_coe.1 hx)
    exact ha task ht
  · intro key
    rw [Multiset.map_coe, List.map_map, Multiset.sum_coe]
    rfl
  · rw [Multiset.coe_card, List.length_map]
    rfl
  · rfl

theorem onlyFiles_of_adds {tasks : List Task} (ha : ∀ task ∈ tasks, ∃ id values, task = .add id values) :
    ∀ task ∈ tasks, (perform task).OnlyFiles := by
  intro task ht
  obtain ⟨id, values, rfl⟩ := ha task ht
  exact onlyFiles_add id values

/-- **Adds in any order.** In whatever way adds were submitted and made their requests, and whatever records were
written meanwhile, once all have ended the rows have the same ids, each as often, as after the adds one after the
other. -/
theorem asIfSerial_of_adds {tasks order : List Task} (ha : ∀ task ∈ tasks, ∃ id values, task = .add id values)
    (hsteps : ReflTransGen (Step edited) ⟨s, q, tasks, 0⟩ u) (hended : u.Ended) (horder : order.Perm tasks) :
    AsIfSerial s q order u.stores u.queue := by
  have hstart := filing_holds (onlyFiles_of_adds ha) s q
  obtain ⟨q', hserial, hcompleted', hfailed'⟩ := exists_steps_performAll edited s q order
  rw [Multiset.coe_eq_coe.2 horder] at hserial
  obtain ⟨hrows, hcompleted, hfailed⟩ := (hstart.steps hsteps).of_ended hended
  obtain ⟨hrows', hc, hf⟩ := (hstart.steps hserial).of_ended ⟨rfl, rfl⟩
  constructor
  · exact fun key => Multiset.coe_eq_coe.1 ((hrows key).trans (hrows' key).symm)
  · rw [hcompleted, ← hc, hcompleted']
  · rw [hfailed, ← hf, hfailed']

/-- At any time the rows begin with what they were before. -/
theorem isPrefix_of_adds {tasks : List Task} (ha : ∀ task ∈ tasks, ∃ id values, task = .add id values)
    (hsteps : ReflTransGen (Step edited) ⟨s, q, tasks, 0⟩ u) (key : String) :
    s.index.idsAt key <+: u.stores.index.idsAt key :=
  (filing_holds (onlyFiles_of_adds ha) s q).isPrefix_steps hsteps key

end Indexing

end StaffIndex
