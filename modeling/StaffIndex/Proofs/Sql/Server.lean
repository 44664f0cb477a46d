import Mathlib.Data.List.Forall2
import StaffIndex.Proofs.Sql.Sessions
import StaffIndex.Sql.Row

/-!
# Servers

A server is known by its replies to queries. A session that reads the reply to its only query makes of it what the
server says to that query, and nothing else counts (`query_ofExcept_of_answeredBy`). A server that shows records in rows
writes its values into cells, and reading takes the same values out: `present_map_some` for a list, `mapM_eq_ok` for
many rows or fields.
-/

namespace StaffIndex.Sql

variable {α β ε : Type}

/-- What a database replies to each query. -/
abbrev Server := String → List Param → Reply

def Reply.table : Reply → Except Failure Table
  | .error detail => .error (.refused detail)
  | .rows columns cells => .ok (columns, cells)

/-- The reply to a statement, if it gets one. -/
def Server.reply? (server : Server) : Statement → Option Reply
  | .control _ => none
  | .query sql params => some (server sql params)

/-- The first replies to come are those of the server to what the session sends. -/
def Connection.AnsweredBy (c : Connection) (server : Server) (session : Session α) : Prop :=
  ∃ sent, (session c).2.sent = c.sent ++ sent ∧ sent.filterMap server.reply? <+: c.replies

/-- A session that reads the reply to its only query, on a connection to a server. -/
theorem query_ofExcept_of_answeredBy {server : Server} {sql : String} {params : List Param}
    {read : Table → Except Failure α} {c : Connection}
    (h : c.AnsweredBy server ((query sql params).andThen fun table => .ofExcept (read table))) :
    ((query sql params).andThen (fun table => .ofExcept (read table)) c).1 = (server sql params).table.bind read := by
  obtain ⟨sent, hsent, replies, hreplies⟩ := h
  rw [query_ofExcept_apply] at hsent ⊢
  obtain rfl : [.query sql params] = sent := List.append_cancel_left hsent
  have hnext : c.next = (server sql params).table := by
    rw [Connection.next, ← hreplies]
    simp only [List.filterMap_cons_some (rfl : server.reply? (.query sql params) = some (server sql params)),
      List.filterMap_nil, List.singleton_append]
    cases server sql params <;> rfl
  rw [hnext]

/-! ## Values in rows -/

theorem mapM_eq_ok {f : α → Except ε β} {xs : List α} {ys : List β}
    (h : List.Forall₂ (fun x y => f x = .ok y) xs ys) : xs.mapM f = .ok ys := by
  induction h with
  | nil => rfl
  | cons hxy _ ih =>
    rw [List.mapM_cons, hxy, ih]
    rfl

/-- A list of values none of which is null. -/
theorem NamedRow.present_map_some (name : String) (values : List String) :
    present name (values.map some) = .ok values := by
  have hall : (values.map some).mapM id = some values := by
    induction values with
    | nil => rfl
    | cons v values ih =>
      rw [List.map_cons, List.mapM_cons, ih]
      rfl
  rw [present, hall]

/-- What is found under a name that is there, whichever of its entries that is. -/
theorem exists_lookup {l : List (String × β)} {name : String} {P : β → Prop} (hmem : ∃ b, (name, b) ∈ l)
    (hall : ∀ b, (name, b) ∈ l → P b) : ∃ b, l.lookup name = some b ∧ P b := by
  cases hl : l.lookup name with
  | none =>
    obtain ⟨b, hb⟩ := hmem
    exact absurd (List.lookup_eq_none_iff.1 hl _ hb) (by simp)
  | some b =>
    obtain ⟨before, after, rfl, -⟩ := List.lookup_eq_some_iff.1 hl
    exact ⟨b, rfl, hall b (by simp)⟩

end StaffIndex.Sql
