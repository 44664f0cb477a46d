import Mathlib.Data.Multiset.MapFold
import StaffIndex.Indexing.Tasks
import StaffIndex.Queue

/-!
# Workloads

A workload is a queue with what is left to do of each task that has not ended. Tasks are submitted and drained, get
replies and end, in any order (`Step`), and a run keeps the history of this (`Runs`).

The stores are left out: a request may get any reply, or none. So the runs are those on any stores, with any faults, any
gate and any schedule, and what is left of a task may be dropped at any moment.
-/

namespace StaffIndex

/-- A request and its reply. -/
structure Exchange where
  request : Request
  reply : request.Reply

/-- What becomes of a task. -/
inductive Fate where
  | returned (r : Except IndexError Unit)
  | crashed
  | dropped

def Fate.succeeded : Fate → Bool
  | returned r => r.isOk
  | crashed => false
  | dropped => false

/-! ## Plans -/

namespace Plan

/-- The plan makes these requests, one after the other, gets these replies, and has the rest left to do. -/
inductive Follows (p : Plan IndexError Unit) : List Exchange → Plan IndexError Unit → Prop
  | nil : Follows p [] p
  | concat {exchanges : List Exchange} {r : Request} {next : r.Reply → Plan IndexError Unit}
    (h : Follows p exchanges (.ask r next)) (x : r.Reply) : Follows p (exchanges ++ [⟨r, x⟩]) (next x)

/-- How a plan can end now: with its result, at a request that fails or crashes, or anyhow if it is dropped. -/
inductive EndsNow : Plan IndexError Unit → Fate → Prop
  | done : EndsNow (.done ()) (.returned (.ok ()))
  | fail (e : IndexError) : EndsNow (.fail e) (.returned (.error e))
  | refused (r : Request) (next : r.Reply → Plan IndexError Unit) (e : StoreError) :
    EndsNow (.ask r next) (.returned (.error (RaisedByStore.ofStore e)))
  | crashed (r : Request) (next : r.Reply → Plan IndexError Unit) : EndsNow (.ask r next) .crashed
  | dropped (p : Plan IndexError Unit) : EndsNow p .dropped

end Plan

/-! ## Steps -/

/-- Notes what has become of a task. -/
def Queue.leave (q : Queue) (ticket : Nat) : Fate → Queue
  | .returned r => q.settle ticket r.isOk
  | .crashed => q.abandon ticket
  | .dropped => q.abandon ticket

/-- All that the queue notes of it is whether the task has succeeded. -/
theorem Queue.leave_eq (q : Queue) (ticket : Nat) (fate : Fate) :
    q.leave ticket fate = q.settle ticket fate.succeeded := by
  cases fate with
  | returned r => rfl
  | crashed => exact q.abandon_eq ticket
  | dropped => exact q.abandon_eq ticket

structure Workload where
  queue : Queue := {}
  /-- What is left of the tasks that have not ended, by their tickets. -/
  jobs : Multiset (Nat × Plan IndexError Unit) := 0

namespace Workload

inductive Event where
  | submitted (task : Task)
  | answered (ticket : Nat) (exchange : Exchange)
  | ended (ticket : Nat) (fate : Fate)
  | drained

inductive Step : Workload → Event → Workload → Prop
  | submit (q : Queue) (jobs : Multiset (Nat × Plan IndexError Unit)) (task : Task) :
    Step ⟨q, jobs⟩ (.submitted task) ⟨q.submit, (q.submitted, Indexing.perform task) ::ₘ jobs⟩
  | answer (q : Queue) (jobs : Multiset (Nat × Plan IndexError Unit)) (ticket : Nat) {r : Request}
    (next : r.Reply → Plan IndexError Unit) (x : r.Reply) :
    Step ⟨q, (ticket, .ask r next) ::ₘ jobs⟩ (.answered ticket ⟨r, x⟩) ⟨q, (ticket, next x) ::ₘ jobs⟩
  | leave {rest : Plan IndexError Unit} {fate : Fate} (h : rest.EndsNow fate) (q : Queue)
    (jobs : Multiset (Nat × Plan IndexError Unit)) (ticket : Nat) :
    Step ⟨q, (ticket, rest) ::ₘ jobs⟩ (.ended ticket fate) ⟨q.leave ticket fate, jobs⟩
  | drain (q : Queue) (jobs : Multiset (Nat × Plan IndexError Unit)) : Step ⟨q, jobs⟩ .drained ⟨q.drain, jobs⟩

/-- The events lead from one workload to another. -/
inductive Runs : Workload → List Event → Workload → Prop
  | nil (w : Workload) : Runs w [] w
  | cons {u v w : Workload} {event : Event} {events : List Event} (h : Step u event v) (hs : Runs v events w) :
    Runs u (event :: events) w

namespace Runs

variable {u v w : Workload} {event : Event} {events later : List Event}

theorem single (h : Step u event v) : Runs u [event] v := .cons h (.nil v)

theorem trans (h : Runs u events v) (hs : Runs v later w) : Runs u (events ++ later) w := by
  induction h with
  | nil => exact hs
  | cons h _ ih => exact .cons h (ih hs)

end Runs

/-! ## Histories -/

namespace Event

def task? : Event → Option Task
  | submitted task => some task
  | _ => none

def ending? : Event → Option (Nat × Fate)
  | ended ticket fate => some (ticket, fate)
  | _ => none

/-- The exchange, if it is of the task with that ticket. -/
def exchange? (ticket : Nat) : Event → Option Exchange
  | answered t exchange => if t = ticket then some exchange else none
  | _ => none

end Event

/-- The submitted tasks, in the order of their tickets. -/
def submissions (events : List Event) : List Task := events.filterMap Event.task?

/-- The tickets of the ended tasks, with their fates. -/
def endings (events : List Event) : List (Nat × Fate) := events.filterMap Event.ending?

/-- The requests of a task that were answered, with the replies. -/
def exchanges (ticket : Nat) (events : List Event) : List Exchange := events.filterMap (Event.exchange? ticket)

section Histories

variable (events later : List Event) (ticket : Nat)

theorem submissions_append : submissions (events ++ later) = submissions events ++ submissions later :=
  List.filterMap_append

theorem endings_append : endings (events ++ later) = endings events ++ endings later :=
  List.filterMap_append

theorem exchanges_append :
    exchanges ticket (events ++ later) = exchanges ticket events ++ exchanges ticket later :=
  List.filterMap_append

end Histories

end Workload

end StaffIndex
