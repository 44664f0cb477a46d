/-!
# The queue of indexing tasks

The queue gives every submitted task a ticket and counts what becomes of the tasks: each is in flight until it ends, and
ends completed or failed. It tracks tasks in the order of submission; each submission lets go of the ended tasks at the
front, and draining lets go of all of them, without stopping any.
-/

namespace StaffIndex

/-- A tracked task. -/
structure Tracked where
  ticket : Nat
  ended : Bool
  deriving DecidableEq

structure Queue where
  /-- The tasks submitted so far; the next ticket. -/
  submitted : Nat := 0
  tracked : List Tracked := []
  inFlight : Nat := 0
  completed : Nat := 0
  failed : Nat := 0
  deriving DecidableEq

namespace Queue

/-- The counts that the queue reports. -/
structure Stats where
  tracked : Nat
  inFlight : Nat
  completed : Nat
  failed : Nat
  deriving DecidableEq

def stats (q : Queue) : Stats := ⟨q.tracked.length, q.inFlight, q.completed, q.failed⟩

/-- Takes in a task, whose ticket is `q.submitted`. -/
def submit (q : Queue) : Queue where
  submitted := q.submitted + 1
  tracked := q.tracked.dropWhile (·.ended) ++ [⟨q.submitted, false⟩]
  inFlight := q.inFlight + 1
  completed := q.completed
  failed := q.failed

/-- Counts a task in flight among those that have completed or among those that have failed. -/
def count (q : Queue) (succeeded : Bool) : Queue :=
  if succeeded then { q with completed := q.completed + 1 } else { q with failed := q.failed + 1 }

/-- Lets go of a task in flight. One that has not been counted by then has failed. -/
def release (q : Queue) (ticket : Nat) (counted : Bool) : Queue :=
  let q := if counted then q else q.count false
  { q with
    tracked := q.tracked.map fun t => if t.ticket = ticket then { t with ended := true } else t
    inFlight := q.inFlight - 1 }

/-- Notes the end of a task that has run. -/
def settle (q : Queue) (ticket : Nat) (succeeded : Bool) : Queue := (q.count succeeded).release ticket true

/-- Notes the end of a task that crashed, or that was dropped. -/
def abandon (q : Queue) (ticket : Nat) : Queue := q.release ticket false

/-- Lets go of all tracked tasks. -/
def drain (q : Queue) : Queue := { q with tracked := [] }

section Counts

variable (q : Queue) (ticket : Nat) (succeeded : Bool)

@[simp] theorem settle_submitted : (q.settle ticket succeeded).submitted = q.submitted := by cases succeeded <;> rfl

@[simp] theorem settle_inFlight : (q.settle ticket succeeded).inFlight = q.inFlight - 1 := by cases succeeded <;> rfl

@[simp] theorem settle_completed :
    (q.settle ticket succeeded).completed = if succeeded then q.completed + 1 else q.completed := by
  cases succeeded <;> rfl

@[simp] theorem settle_failed :
    (q.settle ticket succeeded).failed = if succeeded then q.failed else q.failed + 1 := by
  cases succeeded <;> rfl

/-- To the queue a task that is given up is one that has failed. -/
theorem abandon_eq : q.abandon ticket = q.settle ticket false := rfl

end Counts

end Queue

end StaffIndex
