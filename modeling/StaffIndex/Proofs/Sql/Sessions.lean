import Mathlib.Data.List.Basic
import StaffIndex.Sql.Connection

/-!
# How sessions go

What becomes of a statement is settled before a session begins, by the steps that fail and by the replies to come: the
statement needs to know only how many queries come before it (`Connection.refusal?`). A session that `Issues` statements
sends them in order up to the first one that is refused, and ends with that refusal if there is one. A single statement
issues itself (`issues_control`, `issues_execute`), and one session after the other issues the statements of both
(`Issues.andThen`).

A query takes the next reply (`query_apply`), and a session that reads the reply to its only query makes of it what it
makes of the reply alone (`query_ofExcept_apply`).
-/

namespace StaffIndex.Sql

variable {α : Type}

def Statement.isQuery : Statement → Bool
  | .control _ => false
  | .query .. => true

def Reply.refusal? : Reply → Option Failure
  | .error detail => some (.refused detail)
  | .rows .. => none

namespace Connection

/-- What the next query is told. -/
def next (c : Connection) : Except Failure Table :=
  match c.replies with
  | [] => .ok ([], [])
  | .error detail :: _ => .error (.refused detail)
  | .rows columns rows :: _ => .ok (columns, rows)

/-- Why the database refuses a statement that comes after others, if it does: a control statement is refused if that
step fails, a query if its reply is an error, the first query having the first reply and so on. -/
def refusal? (c : Connection) (before : List Statement) : Statement → Option Failure
  | .control step => (c.failing.lookup step).map .refused
  | .query .. => c.replies[before.countP Statement.isQuery]?.bind Reply.refusal?

/-- None of the statements is refused. -/
def Accepts (c : Connection) (statements : List Statement) : Prop :=
  ∀ before s, before ++ [s] <+: statements → c.refusal? before s = none

/-- The statements have been sent over the connection `c`, which is then `c'`. -/
structure Sends (c : Connection) (statements : List Statement) (c' : Connection) : Prop where
  sent : c'.sent = c.sent ++ statements
  failing : c'.failing = c.failing
  replies : c'.replies = c.replies.drop (statements.countP Statement.isQuery)

variable {c c₁ c₂ : Connection} {first second before : List Statement} {s : Statement}

theorem sends_nil (c : Connection) : c.Sends [] c := ⟨by simp, rfl, by simp⟩

theorem Sends.trans (h : c.Sends first c₁) (h' : c₁.Sends second c₂) : c.Sends (first ++ second) c₂ where
  sent := by rw [h'.sent, h.sent, List.append_assoc]
  failing := h'.failing.trans h.failing
  replies := by rw [h'.replies, h.replies, List.drop_drop, List.countP_append]

/-- What was sent before has taken its replies away. -/
theorem Sends.refusal?_append (h : c.Sends first c₁) : c.refusal? (first ++ before) s = c₁.refusal? before s := by
  cases s with
  | control step => simp only [refusal?, h.failing]
  | query sql params => simp only [refusal?, h.replies, List.getElem?_drop, List.countP_append]

theorem accepts_nil (c : Connection) : c.Accepts [] := fun before s h => by simp at h

theorem accepts_singleton (h : c.refusal? [] s = none) : c.Accepts [s] := by
  intro before s' hlead
  obtain ⟨rfl, rfl⟩ : before = [] ∧ s' = s := by
    cases before with
    | nil => simpa using hlead
    | cons b before => simp at hlead
  exact h

theorem Accepts.append (hsent : c.Sends first c₁) (h : c.Accepts first) (h' : c₁.Accepts second) :
    c.Accepts (first ++ second) := by
  intro before s hlead
  -- the statement is one of the first ones, or comes after all of them
  rcases List.prefix_or_prefix_of_prefix hlead (List.prefix_append first second) with hfirst | hlonger
  · exact h before s hfirst
  · rcases List.prefix_concat_iff.1 hlonger with rfl | ⟨before', rfl⟩
    · exact h before s (List.prefix_refl _)
    · rw [hsent.refusal?_append]
      rw [List.append_assoc, List.prefix_append_right_inj] at hlead
      exact h' before' s hlead

theorem Accepts.of_prefix (h : c.Accepts second) (hlead : first <+: second) : c.Accepts first :=
  fun before s hs => h before s (hs.trans hlead)

end Connection

/-! ## Single statements -/

/-- A query is recorded and takes the next reply. -/
theorem query_apply (sql : String) (params : List Param) (c : Connection) :
    query sql params c = (c.next, { c with sent := c.sent ++ [.query sql params], replies := c.replies.tail }) := by
  unfold query Connection.next
  split <;> simp [*]

theorem sends_query (sql : String) (params : List Param) (c : Connection) :
    c.Sends [.query sql params] (query sql params c).2 := by
  rw [query_apply]
  exact ⟨rfl, rfl, by simp [Statement.isQuery]⟩

theorem refusal?_query (sql : String) (params : List Param) (c : Connection) :
    c.refusal? [] (.query sql params) = match c.next with
      | .error f => some f
      | .ok _ => none := by
  unfold Connection.refusal? Connection.next
  cases c.replies with
  | nil => rfl
  | cons reply replies => cases reply <;> rfl

/-- A session that reads the reply to its only query. -/
theorem query_ofExcept_apply (sql : String) (params : List Param) (read : Table → Except Failure α) (c : Connection) :
    (query sql params).andThen (fun table => .ofExcept (read table)) c =
      (c.next.bind read, { c with sent := c.sent ++ [.query sql params], replies := c.replies.tail }) := by
  rw [Session.andThen, query_apply]
  cases c.next with
  | error f => rfl
  | ok table =>
    dsimp only [Except.bind]
    cases read table <;> rfl

/-- A control statement is recorded even when that step fails. -/
theorem sent_control (step : Control) (c : Connection) : (control step c).2.sent = c.sent ++ [.control step] := by
  unfold control
  dsimp only
  split <;> rfl

/-! ## Statements one after the other -/

/-- The end of a session that sends the statements: all are accepted, or the first one that is refused is the last one
to be sent. -/
inductive Issued (c : Connection) (statements : List Statement) : Except Failure Unit × Connection → Prop
  | accepted {c' : Connection} : c.Accepts statements → c.Sends statements c' → Issued c statements (.ok (), c')
  | refused {accepted rest : List Statement} {s : Statement} {f : Failure} {c' : Connection} :
      statements = accepted ++ s :: rest → c.Accepts accepted → c.refusal? accepted s = some f →
      c.Sends (accepted ++ [s]) c' → Issued c statements (.error f, c')

/-- A session that sends the statements in order, up to the first one that is refused. -/
def Session.Issues (session : Session Unit) (statements : List Statement) : Prop :=
  ∀ c, Issued c statements (session c)

namespace Session

theorem issues_pure : (pure () : Session Unit).Issues [] := fun c => .accepted c.accepts_nil c.sends_nil

theorem issues_control (step : Control) : (control step).Issues [.control step] := by
  intro c
  have hsends : c.Sends [.control step] { c with sent := c.sent ++ [.control step] } :=
    ⟨rfl, rfl, by simp [Statement.isQuery]⟩
  cases hfails : c.failing.lookup step with
  | none =>
    simp only [control, hfails]
    exact .accepted (Connection.accepts_singleton (by simp [Connection.refusal?, hfails])) hsends
  | some detail =>
    simp only [control, hfails]
    exact .refused rfl c.accepts_nil (by simp [Connection.refusal?, hfails]) hsends

theorem issues_execute (sql : String) (params : List Param) : (execute sql params).Issues [.query sql params] := by
  intro c
  have hrefusal := refusal?_query sql params c
  have hsends := sends_query sql params c
  rw [query_apply] at hsends
  rw [execute, andThen, query_apply]
  cases hnext : c.next with
  | error f =>
    rw [hnext] at hrefusal
    exact .refused rfl c.accepts_nil hrefusal hsends
  | ok table =>
    rw [hnext] at hrefusal
    exact .accepted (Connection.accepts_singleton hrefusal) hsends

variable {session next : Session Unit} {statements more : List Statement}

theorem Issues.andThen (h : session.Issues statements) (h' : next.Issues more) :
    (session.andThen fun () => next).Issues (statements ++ more) := by
  intro c
  have hc := h c
  rw [Session.andThen]
  rcases hrun : session c with ⟨r, c₁⟩
  rw [hrun] at hc
  cases hc with
  | refused heq hacc hf hsends => exact .refused (by rw [heq, List.append_assoc, List.cons_append]) hacc hf hsends
  | accepted hacc hsends =>
    have hc₁ := h' c₁
    dsimp only
    rcases hrun' : next c₁ with ⟨r', c₂⟩
    rw [hrun'] at hc₁
    cases hc₁ with
    | accepted hacc' hsends' => exact .accepted (hacc.append hsends hacc') (hsends.trans hsends')
    | refused heq' hacc' hf' hsends' =>
      refine .refused (by rw [heq', List.append_assoc]) (hacc.append hsends hacc') ?_ ?_
      · rw [hsends.refusal?_append]
        exact hf'
      · rw [List.append_assoc]
        exact hsends.trans hsends'

end Session

end StaffIndex.Sql
