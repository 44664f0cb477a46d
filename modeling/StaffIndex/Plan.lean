import StaffIndex.Error
import StaffIndex.Index

/-!
# Plans

Indexing and searching are written as plans: what to ask of the stores next, and how to go on with the reply. A plan
says nothing of where the stores are, so the same plan runs against tables in memory and against a database, can be
left waiting between two requests, and can meet a store that fails. A request that fails ends the plan.
-/

namespace StaffIndex

/-- A row of the index that resembles a query token. -/
structure ScoredRow where
  key : String
  ids : List EmployeeId
  score : Float

/-- What can be asked of the stores. -/
inductive Request where
  | append (id : EmployeeId) (keys : List String)
  | remove (id : EmployeeId) (keys : List String)
  /-- The ids under a key, if it has a row. -/
  | lookup (key : String)
  /-- The rows whose similarity to a token is above the threshold, once for each such token. -/
  | similar (tokens : List String) (threshold : Float)
  /-- The rows whose keys start with the text, by ascending key. -/
  | prefixed (start : String)
  /-- The summaries of those of the ids that are stored, in the order of the ids. -/
  | summaries (ids : List EmployeeId)
  /-- The values of a stored employee in the given fields. -/
  | values (id : EmployeeId) (fields : List Field)

/-- The kinds of requests. -/
inductive Call where
  | append
  | remove
  | lookup
  | similar
  | prefixed
  | summaries
  | values
  deriving DecidableEq

namespace Request

def call : Request → Call
  | append .. => .append
  | remove .. => .remove
  | lookup _ => .lookup
  | similar .. => .similar
  | prefixed _ => .prefixed
  | summaries _ => .summaries
  | values .. => .values

abbrev Reply : Request → Type
  | append .. => Unit
  | remove .. => Unit
  | lookup _ => Option (List EmployeeId)
  | similar .. => List ScoredRow
  | prefixed _ => List Row
  | summaries _ => List Summary
  | values .. => Option (List String)

end Request

/-- A plan that ends with an `α`, or fails with an `ε` of its own or because a request failed. -/
inductive Plan (ε α : Type) where
  | done (a : α)
  | fail (e : ε)
  | ask (r : Request) (next : r.Reply → Plan ε α)

namespace Plan

variable {ε α β : Type}

protected def bind : Plan ε α → (α → Plan ε β) → Plan ε β
  | done a, f => f a
  | fail e, _ => fail e
  | ask r next, f => ask r fun x => (next x).bind f

instance : Monad (Plan ε) where
  pure := done
  bind := Plan.bind

/-- The plan of a single request. -/
def request (r : Request) : Plan ε r.Reply := ask r done

end Plan

end StaffIndex
