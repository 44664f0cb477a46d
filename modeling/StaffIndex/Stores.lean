import StaffIndex.Employee.Staff
import StaffIndex.Plan
import StaffIndex.Trigram

/-!
# Stores in memory

The index and the staff, and how they answer requests. Here no request fails.
-/

namespace StaffIndex

structure Stores where
  index : Index
  staff : Staff

namespace Stores

def empty : Stores := ⟨.empty, .empty⟩

/-- The rows that resemble a token, by ascending key, and for one key in the order of the tokens. -/
def similar (index : Index) (tokens : List String) (threshold : Float) : List ScoredRow :=
  index.toRows.flatMap fun row => tokens.filterMap fun token =>
    let score := Text.similarity token row.key
    if score > threshold then some ⟨row.key, row.ids, score⟩ else none

/-- The rows whose keys start with the text, by ascending key. -/
def prefixed (index : Index) (start : String) : List Row :=
  index.toRows.filter fun row => start.toList.isPrefixOf row.key.toList

def answer (s : Stores) : (r : Request) → r.Reply × Stores
  | .append id keys => ((), { s with index := s.index.append id keys })
  | .remove id keys => ((), { s with index := s.index.remove id keys })
  | .lookup key => (s.index.find? key, s)
  | .similar tokens threshold => (similar s.index tokens threshold, s)
  | .prefixed start => (prefixed s.index start, s)
  | .summaries ids => (s.staff.summaries ids, s)
  | .values id fields => (s.staff.values? id fields, s)

/-- Runs a plan to its end. -/
def run {ε α : Type} (s : Stores) : Plan ε α → Except ε α × Stores
  | .done a => (.ok a, s)
  | .fail e => (.error e, s)
  | .ask r next => let (x, s) := s.answer r; s.run (next x)

section Runs

variable {ε α β : Type}

@[simp] theorem run_pure (s : Stores) (a : α) : s.run (pure a : Plan ε α) = (.ok a, s) := rfl

@[simp] theorem run_fail (s : Stores) (e : ε) : s.run (.fail e : Plan ε α) = (.error e, s) := rfl

@[simp] theorem run_ask (s : Stores) (r : Request) (next : r.Reply → Plan ε α) :
    s.run (.ask r next) = (s.answer r).2.run (next (s.answer r).1) := rfl

@[simp] theorem run_request (s : Stores) (r : Request) :
    s.run (Plan.request r : Plan ε r.Reply) = (.ok (s.answer r).1, (s.answer r).2) := rfl

theorem run_bind (s : Stores) (p : Plan ε α) (f : α → Plan ε β) :
    s.run (p >>= f) = match s.run p with
      | (.ok a, s) => s.run (f a)
      | (.error e, s) => (.error e, s) := by
  induction p generalizing s with
  | done a => rfl
  | fail e => rfl
  | ask r next ih => exact ih _ _

end Runs

end Stores

end StaffIndex
