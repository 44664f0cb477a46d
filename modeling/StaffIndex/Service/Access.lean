import StaffIndex.Stores

/-!
# Access to the stores

The service reaches its stores through an access that can be made to fail or to crash at chosen requests, and to hold
chosen requests back until they are permitted. A request first passes the gate, then meets the faults, and touches the
stores last. `advance` runs a plan as far as it gets.
-/

namespace StaffIndex

/-- The requests that go wrong. -/
structure Faults where
  crashing : List Call := []
  /-- The failing requests with their errors; the first entry of a call counts. -/
  failing : List (Call × StoreError) := []

/-- What holds requests back. Each permit lets one guarded request through. -/
structure Gate where
  guarded : List Call := []
  permits : Nat := 0

structure Access where
  stores : Stores := .empty
  faults : Faults := {}
  gate : Gate := {}

/-- What becomes of a request that passed the gate. -/
inductive Outcome (α : Type) where
  | reply (a : α)
  | error (e : StoreError)
  | crash

/-- How far a plan got. -/
inductive Progress (ε α : Type) where
  | ended (result : Except ε α)
  | crashed
  /-- The plan waits at the gate with its next request. -/
  | waiting (rest : Plan ε α)

namespace Access

def answer (a : Access) (r : Request) : Outcome r.Reply × Access :=
  if r.call ∈ a.faults.crashing then (.crash, a)
  else match a.faults.failing.lookup r.call with
    | some e => (.error e, a)
    | none => let (x, stores) := a.stores.answer r; (.reply x, { a with stores })

/-- The access once the request has passed the gate, unless it has to wait there. -/
def pass? (a : Access) (r : Request) : Option Access :=
  if r.call ∉ a.gate.guarded then some a
  else if a.gate.permits = 0 then none
  else some { a with gate.permits := a.gate.permits - 1 }

/-- Runs a plan until it ends or has to wait. If `admitted`, its first request has passed the gate before. -/
def advance {ε α : Type} [RaisedByStore ε] (a : Access) (admitted : Bool) : Plan ε α → Progress ε α × Access
  | .done x => (.ended (.ok x), a)
  | .fail e => (.ended (.error e), a)
  | .ask r next =>
    match if admitted then some a else a.pass? r with
    | none => (.waiting (.ask r next), a)
    | some a => match a.answer r with
      | (.reply x, a) => a.advance false (next x)
      | (.error e, a) => (.ended (.error (RaisedByStore.ofStore e)), a)
      | (.crash, a) => (.crashed, a)

end Access

end StaffIndex
