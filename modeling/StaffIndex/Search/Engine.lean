import StaffIndex.Key
import StaffIndex.Search.Ranking
import StaffIndex.Search.Suggestion

/-!
# The three searches

The exact search takes the whole query as one key. The ranked search weighs the rows that resemble a word of the query.
The suggesting search takes the last word for the beginning of a key and all words before it for whole keys.
-/

namespace StaffIndex.Search

structure Settings where
  /-- The ranked search leaves out the rows whose similarity is not above this. -/
  threshold : Float := 0.4
  /-- How many employees are suggested at most. -/
  suggestLimit : Nat := 5
  /-- How many employees a ranked search returns at most. -/
  maxLimit : Nat := 100

def exact (query : String) : Plan SearchError (List Summary) := do
  match ← Plan.request (.lookup (Key.ofText query)) with
  | none => return []
  | some ids => Plan.request (.summaries ids.eraseDups)

def ranked (settings : Settings) (query : String) (limit : Nat) : Plan SearchError (List Summary) :=
  if limit = 0 then .fail .zeroLimit
  else do
    let rows ← Plan.request (.similar (Key.tokens query) settings.threshold)
    Plan.request (.summaries (rank rows (min limit settings.maxLimit)))

/-- The ids under each of the keys, or nothing as soon as a key has no row. -/
def lookupAll : List String → Plan SearchError (Option (List (List EmployeeId)))
  | [] => return some []
  | key :: keys => do
    match ← Plan.request (.lookup key) with
    | none => return none
    | some ids => return (← lookupAll keys).map (ids :: ·)

def suggest (settings : Settings) (query : String) : Plan SearchError (List Summary) := do
  let words := Key.tokens query
  match ← lookupAll words.dropLast with
  | none => return []
  | some exact =>
    let rows ← Plan.request (.prefixed (words.getLast?.getD ""))
    Plan.request (.summaries (suggestions exact rows settings.suggestLimit))

end StaffIndex.Search
