import StaffIndex.Proofs.Sql.FieldValues
import StaffIndex.Proofs.Sql.Rows
import StaffIndex.Proofs.Sql.Sessions
import StaffIndex.Sql.Stores

/-!
# What a failure stops

Every operation of the stores in the database has its statements, whatever the database makes of them
(`Operation.statements`), and may have rows to read (`Operation.rowsOf`), of which it needs certain columns
(`Operation.columns`). It ends in one of three ways (`Ends`): all statements are accepted and all rows can be read; the
first statement that is refused is the last one sent, but for the rollback of a transaction that has begun; or all
statements are accepted and the first row that cannot be read is the last one looked at. In the last two ways the
operation reports that failure and no other.

Sessions of statements alone end so because of what they issue (`ends_of_issues`, `ends_of_transaction`), sessions that
read the reply to a query because of how rows are read (`decoded_rows`, `decoded_first?`, `ends_of_reading`).
`stops_at_first_failure` is the sum of it.
-/

namespace StaffIndex.Sql

variable {α β : Type}

/-! ## Reading rows -/

section Rows

variable {columns : List Column}

/-- The rows of a table with the names of their columns. -/
def Table.named (table : Table) : List NamedRow := table.2.map fun cells => ⟨table.1, cells⟩

/-- What comes of reading rows in order: the failure of the first one that cannot be read, or something made of all. -/
inductive Decoded (columns : List Column) (rows : List NamedRow) : Except Failure α → Prop
  | all {a : α} : (∀ row ∈ rows, row.Readable columns) → Decoded columns rows (.ok a)
  | stopped {before after : List NamedRow} {row : NamedRow} {f : Failure} : rows = before ++ row :: after →
      (∀ r ∈ before, r.Readable columns) → row.Unreadable columns f → Decoded columns rows (.error f)

theorem Decoded.map {rows : List NamedRow} {r : Except Failure α} (h : Decoded columns rows r) (g : α → β) :
    Decoded columns rows (r.map g) := by
  cases h with
  | all hall => exact .all hall
  | stopped heq hbefore hrow => exact .stopped heq hbefore hrow

theorem decoded_singleton {row : NamedRow} {r : Except Failure α} (h : row.Judged columns r) :
    Decoded columns [row] r := by
  cases h with
  | read hrow => exact .all fun _ hmem => List.mem_singleton.1 hmem ▸ hrow
  | refused hrow => exact .stopped (List.nil_append _).symm (by simp) hrow

theorem Decoded.cons {row : NamedRow} {rows : List NamedRow} {r : Except Failure α} (hrow : row.Readable columns)
    (h : Decoded columns rows r) : Decoded columns (row :: rows) r := by
  cases h with
  | all hall => exact .all (List.forall_mem_cons.2 ⟨hrow, hall⟩)
  | stopped heq hbefore hstop =>
    exact .stopped (congrArg (row :: ·) heq) (List.forall_mem_cons.2 ⟨hrow, hbefore⟩) hstop

section Tables

variable {read : NamedRow → Except Failure α} (hread : ∀ row : NamedRow, row.Judged columns (read row))

include hread

theorem decoded_rows (table : Table) : Decoded columns (Table.named table) (Table.rows table read) := by
  obtain ⟨names, rows⟩ := table
  induction rows with
  | nil => exact .all (by simp [Table.named])
  | cons cells rows ih =>
    change Decoded columns (⟨names, cells⟩ :: Table.named (names, rows))
      ((cells :: rows).mapM fun cells => read ⟨names, cells⟩)
    rw [List.mapM_cons]
    have hfirst := hread ⟨names, cells⟩
    cases hresult : read ⟨names, cells⟩ with
    | error f =>
      rw [hresult] at hfirst
      cases hfirst with
      | refused hrow => exact .stopped (List.nil_append _).symm (by simp) hrow
    | ok a =>
      rw [hresult] at hfirst
      cases hfirst with
      | read hrow => exact (ih.map (a :: ·)).cons hrow

theorem decoded_first? (table : Table) :
    Decoded columns ((Table.named table).take 1) (Table.first? table read) := by
  obtain ⟨names, rows⟩ := table
  cases rows with
  | nil => exact .all (by simp [Table.named])
  | cons cells rows => exact (decoded_singleton (hread ⟨names, cells⟩)).map some

end Tables

end Rows

/-! ## Ends -/

/-- Does the statement begin a transaction? -/
def Statement.begins : Statement → Bool
  | .control .begin => true
  | _ => false

/-- What is sent when the statement after these is refused: a transaction that has begun is rolled back. -/
def givenUp (accepted : List Statement) : List Statement :=
  if accepted.any Statement.begins then [.control .rollback] else []

/-- How something that sends these statements and reads these rows ends over a connection, and what it has sent then. -/
inductive Ends (c : Connection) (statements : List Statement) (rows : List NamedRow) (columns : List Column) :
    Except StoreError α → List Statement → Prop
  | done {a : α} : c.Accepts statements → (∀ row ∈ rows, row.Readable columns) →
      Ends c statements rows columns (.ok a) statements
  | refused {accepted rest : List Statement} {s : Statement} {f : Failure} : statements = accepted ++ s :: rest →
      c.Accepts accepted → c.refusal? accepted s = some f →
      Ends c statements rows columns (.error f.toStoreError) (accepted ++ s :: givenUp accepted)
  | unreadable {before after : List NamedRow} {row : NamedRow} {f : Failure} : c.Accepts statements →
      rows = before ++ row :: after → (∀ r ∈ before, r.Readable columns) → row.Unreadable columns f →
      Ends c statements rows columns (.error f.toStoreError) statements

/-- A session with its failures as errors of the store. -/
def Session.reported (session : Session α) (c : Connection) : Except StoreError α × Connection :=
  ((session c).1.mapError Failure.toStoreError, (session c).2)

/-- The session sends these statements and reads these columns of these rows, or as much of it as succeeds. -/
def Session.EndsOver (session : Session α) (c : Connection) (statements : List Statement) (rows : List NamedRow)
    (columns : List Column) : Prop :=
  ∃ sent, (session.reported c).2.sent = c.sent ++ sent ∧ Ends c statements rows columns (session.reported c).1 sent

section Sessions

variable {c : Connection} {statements : List Statement} {columns : List Column}

theorem ends_pure (a : α) : (Session.pure a).EndsOver c [] [] columns :=
  ⟨[], (List.append_nil _).symm, .done c.accepts_nil (by simp)⟩

/-- Statements outside of transactions. -/
theorem ends_of_issues {session : Session Unit} (h : session.Issues statements)
    (hplain : ∀ s ∈ statements, s.begins = false) : session.EndsOver c statements [] columns := by
  have hc := h c
  unfold Session.EndsOver Session.reported
  rcases hrun : session c with ⟨r, c'⟩
  rw [hrun] at hc
  cases hc with
  | accepted hacc hsends => exact ⟨statements, hsends.sent, .done hacc (by simp)⟩
  | @refused accepted rest s f _ heq hacc hf hsends =>
    have hgiven : givenUp accepted = [] := by
      rw [givenUp, if_neg]
      intro hany
      obtain ⟨b, hb, hbegins⟩ := List.any_eq_true.1 hany
      rw [hplain b (heq ▸ List.mem_append_left _ hb)] at hbegins
      cases hbegins
    refine ⟨accepted ++ s :: givenUp accepted, ?_, .refused heq hacc hf⟩
    rw [hgiven]
    exact hsends.sent

/-- The body of a transaction with what it begins and ends with. -/
theorem ends_of_transaction {body : Session Unit} (h : body.Issues statements) :
    (transaction body).EndsOver c (.control .begin :: (statements ++ [.control .commit])) [] columns := by
  have hinner : (body.andThen fun a => (control .commit).andThen fun () => .pure a).Issues
      (statements ++ [.control .commit]) :=
    h.andThen ((Session.issues_control .commit).andThen Session.issues_pure)
  have hbegin := Session.issues_control .begin c
  unfold Session.EndsOver Session.reported
  rw [transaction, Session.andThen]
  rcases hrun : control .begin c with ⟨r, c₁⟩
  rw [hrun] at hbegin
  cases hbegin with
  | @refused accepted rest s f _ heq hacc hf hsends =>
    -- nothing has begun yet, so there is nothing to roll back
    obtain ⟨rfl, rfl⟩ : accepted = [] ∧ .control .begin = s := by
      rcases List.append_eq_singleton_iff.1 heq.symm with ⟨haccepted, hs⟩ | ⟨-, hs⟩
      · exact ⟨haccepted, (List.head_eq_of_cons_eq hs).symm⟩
      · cases hs
    exact ⟨[.control .begin], hsends.sent, .refused rfl hacc hf⟩
  | accepted hacc hsends =>
    have hc₁ := hinner c₁
    dsimp only
    rcases hrun' : (body.andThen fun a => (control .commit).andThen fun () => .pure a) c₁ with ⟨r', c₂⟩
    rw [hrun'] at hc₁
    cases hc₁ with
    | accepted hacc' hsends' => exact ⟨_, (hsends.trans hsends').sent, .done (hacc.append hsends hacc') (by simp)⟩
    | @refused accepted rest s f _ heq hacc' hf hsends' =>
      have hgiven : givenUp (.control .begin :: accepted) = [.control .rollback] := by simp [givenUp, Statement.begins]
      refine ⟨.control .begin :: accepted ++ s :: givenUp (.control .begin :: accepted), ?_,
        .refused (congrArg (.control .begin :: ·) heq) (hacc.append hsends hacc') ?_⟩
      · rw [hgiven]
        dsimp only
        rw [sent_control, (hsends.trans hsends').sent]
        simp
      · exact hsends.refusal?_append.trans hf

/-- A query whose reply is read. -/
theorem ends_of_reading {sql : String} {params : List Param} {read : Table → Except Failure α}
    {rowsOf : Table → List NamedRow} (h : ∀ table, Decoded columns (rowsOf table) (read table)) :
    ((query sql params).andThen fun table => .ofExcept (read table)).EndsOver c [.query sql params]
      (match c.next with
        | .ok table => rowsOf table
        | .error _ => []) columns := by
  have hrefusal := refusal?_query sql params c
  unfold Session.EndsOver Session.reported
  rw [query_ofExcept_apply]
  cases hnext : c.next with
  | error f =>
    rw [hnext] at hrefusal
    exact ⟨[.query sql params], rfl, .refused rfl c.accepts_nil hrefusal⟩
  | ok table =>
    rw [hnext] at hrefusal
    have hacc := Connection.accepts_singleton hrefusal
    refine ⟨[.query sql params], rfl, ?_⟩
    have hread := h table
    dsimp only [Except.bind]
    cases hr : read table with
    | ok a =>
      rw [hr] at hread
      cases hread with
      | all hall => exact .done hacc hall
    | error f =>
      rw [hr] at hread
      cases hread with
      | stopped heq hbefore hrow => exact .unreadable hacc heq hbefore hrow

/-- It succeeds just if nothing is refused and nothing cannot be read. -/
theorem Ends.ok_iff {rows : List NamedRow} {sent : List Statement} {r : Except StoreError α}
    (h : Ends c statements rows columns r sent) :
    (∃ a, r = .ok a) ↔ c.Accepts statements ∧ ∀ row ∈ rows, row.Readable columns := by
  cases h with
  | done hacc hrows => exact iff_of_true ⟨_, rfl⟩ ⟨hacc, hrows⟩
  | @refused accepted rest s f heq _ hf =>
    refine iff_of_false (fun ⟨a, ha⟩ => by cases ha) fun ⟨hacc, _⟩ => ?_
    rw [hacc accepted s ⟨rest, by simp [heq]⟩] at hf
    cases hf
  | @unreadable before after row f _ heq _ hrow =>
    exact iff_of_false (fun ⟨a, ha⟩ => by cases ha) fun ⟨_, hrows⟩ =>
      hrow.not_readable (hrows row (by simp [heq]))

theorem mem_givenUp {s : Statement} (h : s ∈ givenUp statements) : s = .control .rollback := by
  unfold givenUp at h
  split at h
  · exact List.mem_singleton.1 h
  · cases h

/-- The last statement is sent only when all before it have been accepted, and then nothing else can fail. -/
theorem Ends.of_last_mem {last : Statement} {sent : List Statement} {r : Except StoreError α}
    (h : Ends c (statements ++ [last]) [] columns r sent) (hsent : last ∈ sent) (hlast : last ∉ statements)
    (hrollback : last ≠ .control .rollback) :
    statements ++ [last] <+: sent ∧ c.Accepts statements ∧
      ∀ e, r = .error e → ∃ f, c.refusal? statements last = some f := by
  cases h with
  | done hacc _ => exact ⟨List.prefix_refl _, hacc.of_prefix (List.prefix_append _ _), nofun⟩
  | unreadable _ heq => simp at heq
  | @refused accepted rest s f heq hacc hf =>
    -- the refused statement is the last one, or it is an earlier one and only a rollback comes after it
    rcases List.eq_nil_or_concat rest with rfl | ⟨rest, x, rfl⟩
    · obtain ⟨rfl, hs⟩ := List.append_inj' heq rfl
      obtain rfl : last = s := List.head_eq_of_cons_eq hs
      exact ⟨⟨givenUp statements, by simp⟩, hacc, fun _ _ => ⟨f, hf⟩⟩
    · rw [List.concat_eq_append, ← List.cons_append, ← List.append_assoc] at heq
      have hfront : statements = accepted ++ s :: rest := (List.append_inj' heq rfl).1
      exfalso
      rcases List.mem_append.1 hsent with hin | hin
      · exact hlast (hfront ▸ List.mem_append_left _ hin)
      · rcases List.mem_cons.1 hin with rfl | hin
        · exact hlast (hfront ▸ by simp)
        · exact hrollback (mem_givenUp hin)

end Sessions

/-! ## Operations -/

/-- What is done over a connection: setting up what is missing, or a request to the stores. -/
inductive Operation where
  | setUp
  | request (r : Request)

/-- Takes an id out of the rows of the keys. -/
def clearing (id : EmployeeId) (keys : List String) : Statement :=
  .query "UPDATE reverse_index SET ids = array_remove(ids, $1) WHERE key = ANY($2)" [.text id, .texts keys]

/-- Deletes those of the rows of the keys that are empty. -/
def sweeping (keys : List String) : Statement :=
  .query "DELETE FROM reverse_index WHERE key = ANY($1) AND cardinality(ids) = 0" [.texts keys]

/-- The text as a pattern that only the text itself matches: a backslash before each character with a meaning. -/
def literally (text : String) : String :=
  String.ofList (text.toList.flatMap fun c => if c = '\\' ∨ c = '%' ∨ c = '_' then ['\\', c] else [c])

namespace Operation

abbrev Result : Operation → Type
  | setUp => Unit
  | request r => r.Reply

def session : (o : Operation) → Session o.Result
  | setUp => migrate
  | request r => answer r

/-- Does it over a connection; a request is a plan of its own. -/
def run : (o : Operation) → Connection → Except StoreError o.Result × Connection
  | setUp, c => migrate.reported c
  | request r, c => Sql.run (Plan.request r) c

/-- The statements of the operation in their order. -/
def statements : Operation → List Statement
  | setUp => [
    .query "CREATE EXTENSION IF NOT EXISTS pg_trgm" [],
    .query ("CREATE TABLE IF NOT EXISTS employees ( id TEXT PRIMARY KEY, name TEXT NOT NULL, surname TEXT NOT NULL, " ++
      "patronymic TEXT, role TEXT, email TEXT, birthday TEXT, telegram_id TEXT, vk_id TEXT, team TEXT, " ++
      "phones TEXT[] NOT NULL DEFAULT '\x7b\x7d', photo_link TEXT )") [],
    .query "CREATE TABLE IF NOT EXISTS reverse_index ( key TEXT PRIMARY KEY, ids TEXT[] NOT NULL )" [],
    .query "CREATE INDEX IF NOT EXISTS reverse_index_key_trgm ON reverse_index USING gin (key gin_trgm_ops)" []]
  | request (.append id keys) => if keys = [] then [] else [.query
      ("INSERT INTO reverse_index (key, ids) SELECT key, ARRAY[$1::text] FROM unnest($2::text[]) AS key " ++
        "ON CONFLICT (key) DO UPDATE SET ids = array_append(reverse_index.ids, $1::text)") [.text id, .texts keys]]
  | request (.remove id keys) => if keys = [] then [] else
    [.control .begin, clearing id keys, sweeping keys, .control .commit]
  | request (.lookup key) => [.query "SELECT key, ids FROM reverse_index WHERE key = $1" [.text key]]
  | request (.similar tokens threshold) => [.query
      ("SELECT r.key, r.ids, similarity(t.token, r.key) AS score FROM reverse_index AS r, " ++
        "unnest($1::text[]) AS t(token) WHERE similarity(t.token, r.key) > $2")
      [.texts tokens, .single threshold.toFloat32]]
  | request (.prefixed start) => [.query
      "SELECT key, ids FROM reverse_index WHERE key LIKE $1 ESCAPE '\\' ORDER BY key" [.text (literally start ++ "%")]]
  | request (.summaries ids) => if ids = [] then [] else [.query
      ("SELECT e.id, e.name, e.surname, e.patronymic, e.photo_link FROM employees AS e " ++
        "JOIN unnest($1::text[]) WITH ORDINALITY AS t(id, ord) USING (id) ORDER BY t.ord") [.texts ids]]
  | request (.values id fields) => if fields = [] then [.query "SELECT 1 FROM employees WHERE id = $1" [.text id]] else
    [.query ("SELECT " ++ ", ".intercalate (fields.map Field.column) ++ " FROM employees WHERE id = $1") [.text id]]

/-- The rows that are read of the reply to the only query. -/
def rowsOf : Operation → Table → List NamedRow
  | request (.lookup _), table => (Table.named table).take 1
  | request (.similar ..), table => Table.named table
  | request (.prefixed _), table => Table.named table
  | request (.summaries ids), table => if ids = [] then [] else Table.named table
  | request (.values ..), table => (Table.named table).take 1
  | _, _ => []

/-- The columns that are needed of a row that is read. -/
def columns : Operation → List Column
  | request (.lookup _) => Column.index
  | request (.similar ..) => Column.scored
  | request (.prefixed _) => Column.index
  | request (.summaries _) => Column.summary
  | request (.values _ fields) => fields.map Column.ofField
  | _ => []

/-- The rows that are read over a connection. -/
def rowsRead (o : Operation) (c : Connection) : List NamedRow :=
  match c.next with
  | .ok table => o.rowsOf table
  | .error _ => []

theorem rowsRead_eq_nil {o : Operation} (h : ∀ table, o.rowsOf table = []) (c : Connection) : o.rowsRead c = [] := by
  unfold rowsRead
  split
  · exact h _
  · rfl

theorem run_eq_reported (o : Operation) (c : Connection) : o.run c = o.session.reported c := by
  cases o with
  | setUp => rfl
  | request r =>
    rw [run, session, Session.reported, Plan.request, Sql.run]
    rcases answer r c with ⟨_ | _, _⟩ <;> rfl

end Operation

theorem issues_executeAll (sqls : List String) : (executeAll sqls).Issues (sqls.map fun sql => .query sql []) := by
  induction sqls with
  | nil => exact Session.issues_pure
  | cons sql sqls ih => exact (Session.issues_execute sql []).andThen ih

theorem startingWith_eq (start : String) : startingWith start = literally start ++ "%" := by
  have hescape : escape start.toList =
      start.toList.flatMap fun c => if c = '\\' ∨ c = '%' ∨ c = '_' then ['\\', c] else [c] :=
    List.flatMap_congr fun c _ => by simp [isSpecial, or_assoc]
  rw [startingWith, hescape, String.ofList_append]
  rfl

theorem Operation.statements_values (id : EmployeeId) (fields : List Field) :
    (request (.values id fields)).statements = [.query (selectFields fields) [.text id]] := by
  rw [statements]
  split
  · next h => rw [h, selectFields_nil]
  · next h => rw [selectFields_of_ne_nil h]

/-- Each operation ends with its statements and rows or with the first failure among them. -/
theorem Operation.endsOver (o : Operation) (c : Connection) :
    o.session.EndsOver c o.statements (o.rowsRead c) o.columns := by
  cases o with
  | setUp =>
    rw [Operation.rowsRead_eq_nil fun _ => rfl]
    exact ends_of_issues (issues_executeAll setup) (by simp [Operation.statements, Statement.begins])
  | request r =>
    cases r with
    | append id keys =>
      rw [Operation.rowsRead_eq_nil fun _ => rfl]
      by_cases hkeys : keys = []
      · simp only [Operation.session, answer, append, Operation.statements, if_pos hkeys]
        exact ends_pure ()
      · simp only [Operation.session, answer, append, Operation.statements, if_neg hkeys]
        exact ends_of_issues (Session.issues_execute _ _) (by simp [Statement.begins])
    | remove id keys =>
      rw [Operation.rowsRead_eq_nil fun _ => rfl]
      by_cases hkeys : keys = []
      · simp only [Operation.session, answer, remove, Operation.statements, if_pos hkeys]
        exact ends_pure ()
      · simp only [Operation.session, answer, remove, Operation.statements, if_neg hkeys]
        exact ends_of_transaction ((Session.issues_execute _ _).andThen (Session.issues_execute _ _))
    | lookup key => exact ends_of_reading fun table => (decoded_first? NamedRow.judged_indexRow table).map _
    | similar tokens threshold => exact ends_of_reading fun table => decoded_rows NamedRow.judged_scoredRow table
    | prefixed start =>
      rw [Operation.statements, ← startingWith_eq]
      exact ends_of_reading fun table => decoded_rows NamedRow.judged_indexRow table
    | summaries ids =>
      by_cases hids : ids = []
      · rw [Operation.rowsRead_eq_nil (o := .request (.summaries ids)) fun _ => if_pos hids]
        simp only [Operation.session, answer, summaries, Operation.statements, if_pos hids]
        exact ends_pure []
      · simp only [Operation.session, answer, summaries, Operation.statements, Operation.rowsRead, Operation.rowsOf,
          if_neg hids]
        exact ends_of_reading fun table => decoded_rows NamedRow.judged_summary table
    | values id fields =>
      rw [Operation.statements_values]
      exact ends_of_reading fun table =>
        decoded_first? (fun row => (row.judged_mapM_fieldValues fields).map List.flatten) table

/-- A removal that has sent its commit. -/
theorem committed_of_ends {c : Connection} {id : EmployeeId} {keys : List String} {r : Except StoreError α}
    {sent : List Statement} {columns : List Column}
    (h : Ends c (Operation.request (.remove id keys)).statements [] columns r sent) (hsent : .control .commit ∈ sent) :
    [.control .begin, clearing id keys, sweeping keys, .control .commit] <+: sent ∧
      c.Accepts [.control .begin, clearing id keys, sweeping keys] ∧
      ∀ e, r = .error e → ∃ detail, c.failing.lookup .commit = some detail := by
  have hkeys : keys ≠ [] := by
    rintro rfl
    cases h with
    | done => cases hsent
    | refused heq => simp [Operation.statements] at heq
    | unreadable _ heq => simp at heq
  have hstatements : (Operation.request (.remove id keys)).statements =
      [.control .begin, clearing id keys, sweeping keys] ++ [.control .commit] := if_neg hkeys
  rw [hstatements] at h
  obtain ⟨hlead, hacc, hfails⟩ := h.of_last_mem hsent (by simp [clearing, sweeping]) (by simp)
  refine ⟨hlead, hacc, fun e he => ?_⟩
  obtain ⟨f, hf⟩ := hfails e he
  obtain ⟨detail, hdetail, -⟩ := Option.map_eq_some_iff.1 hf
  exact ⟨detail, hdetail⟩

/-- **The first failure stops an operation.** Its statements are sent in their order, the first one that is refused or
the first row that cannot be read is what the operation reports, and nothing but a rollback is sent after that. It
succeeds just if there is no such failure. In particular a removal sends its commit only after both of its statements
have been accepted, and can then only fail by the commit; and nothing is sent where there are no keys. -/
theorem stops_at_first_failure :
    (∀ (o : Operation) (c : Connection), ∃ sent, (o.run c).2.sent = c.sent ++ sent ∧
      Ends c o.statements (o.rowsRead c) o.columns (o.run c).1 sent) ∧
    (∀ (o : Operation) (c : Connection), (∃ a, (o.run c).1 = .ok a) ↔
      c.Accepts o.statements ∧ ∀ row ∈ o.rowsRead c, row.Readable o.columns) ∧
    (∀ (id : EmployeeId) (keys : List String) (c : Connection) (sent : List Statement),
      ((Operation.request (.remove id keys)).run c).2.sent = c.sent ++ sent → .control .commit ∈ sent →
      [.control .begin, clearing id keys, sweeping keys, .control .commit] <+: sent ∧
        c.Accepts [.control .begin, clearing id keys, sweeping keys] ∧
        ∀ e, ((Operation.request (.remove id keys)).run c).1 = .error e →
          ∃ detail, c.failing.lookup .commit = some detail) ∧
    ∀ (id : EmployeeId) (c : Connection), (Operation.request (.append id [])).run c = (.ok (), c) ∧
      (Operation.request (.remove id [])).run c = (.ok (), c) := by
  have hends : ∀ (o : Operation) (c : Connection), ∃ sent, (o.run c).2.sent = c.sent ++ sent ∧
      Ends c o.statements (o.rowsRead c) o.columns (o.run c).1 sent := fun o c => by
    rw [o.run_eq_reported]
    exact o.endsOver c
  refine ⟨hends, fun o c => ?_, fun id keys c sent hsent hcommit => ?_, fun id c => ⟨rfl, rfl⟩⟩
  · obtain ⟨sent, -, hend⟩ := hends o c
    exact hend.ok_iff
  · obtain ⟨sent', hsent', hremoval⟩ := hends (.request (.remove id keys)) c
    obtain rfl : sent = sent' := List.append_cancel_left (hsent.symm.trans hsent')
    rw [Operation.rowsRead_eq_nil fun _ => rfl] at hremoval
    exact committed_of_ends hremoval hcommit

def failingCommit : Connection where
  failing := [(.commit, "could not serialize access")]

/-- The extension may be created, but no table. -/
def refusedTable : Connection where
  replies := [.rows [] [], .error "permission denied"]

/-- The second row has no score, and the third one no ids. -/
def withoutScore : Connection where
  replies := [.rows ["key", "ids", "score"]
    [[.text "anna", .texts [some "e1"], .single 1], [.text "boris", .texts [some "e2"], .null],
      [.text "vera", .null, .single 1]]]

/-- A commit that fails is followed by a rollback, a table that is refused by nothing, and of the rows that cannot be
read the first one is reported. -/
theorem stops_at_first_failure_refusedTable :
    (∃ sent, ((Operation.request (.remove "e1" ["core"])).run failingCommit).2.sent = failingCommit.sent ++ sent ∧
      .control .commit ∈ sent ∧
      failingCommit.Accepts [.control .begin, clearing "e1" ["core"], sweeping ["core"]] ∧
      ((Operation.request (.remove "e1" ["core"])).run failingCommit).1 =
        .error (.database "error returned from database: could not serialize access")) ∧
    (∃ sent, (Operation.setUp.run refusedTable).2.sent = refusedTable.sent ++ sent ∧
      Ends refusedTable Operation.setUp.statements [] [] (Operation.setUp.run refusedTable).1 sent ∧
      sent = Operation.setUp.statements.take 2 ∧
      (Operation.setUp.run refusedTable).1 = .error (.database "error returned from database: permission denied")) ∧
    ∃ similar : Operation, similar = .request (.similar ["anna"] 0.4) ∧
      (¬ ∀ row ∈ similar.rowsRead withoutScore, row.Readable similar.columns) ∧
      (similar.run withoutScore).1 = .error (.database ("error occurred while decoding column \"score\": " ++
        "unexpected null; try decoding as an `Option`")) := by
  refine ⟨?_, ?_, ?_⟩
  · let sent : List Statement :=
      [.control .begin, clearing "e1" ["core"], sweeping ["core"], .control .commit, .control .rollback]
    have hsent : ((Operation.request (.remove "e1" ["core"])).run failingCommit).2.sent =
      failingCommit.sent ++ sent := rfl
    have hcommit : .control .commit ∈ sent := by simp [sent]
    exact ⟨sent, hsent, hcommit, (stops_at_first_failure.2.2.1 _ _ _ _ hsent hcommit).2.1, rfl⟩
  · obtain ⟨sent, hsent, hends⟩ := stops_at_first_failure.1 .setUp refusedTable
    rw [Operation.rowsRead_eq_nil fun _ => rfl] at hends
    have htwo : (Operation.setUp.run refusedTable).2.sent =
      refusedTable.sent ++ Operation.setUp.statements.take 2 := rfl
    exact ⟨sent, hsent, hends, List.append_cancel_left (hsent.symm.trans htwo), rfl⟩
  · have herror : ((Operation.request (.similar ["anna"] 0.4)).run withoutScore).1 =
        .error (.database ("error occurred while decoding column \"score\": " ++
          "unexpected null; try decoding as an `Option`")) := rfl
    have hacc : withoutScore.Accepts (Operation.request (.similar ["anna"] 0.4)).statements :=
      Connection.accepts_singleton rfl
    refine ⟨_, rfl, fun hrows => ?_, herror⟩
    obtain ⟨a, ha⟩ := (stops_at_first_failure.2.1 (.request (.similar ["anna"] 0.4)) withoutScore).2 ⟨hacc, hrows⟩
    rw [herror] at ha
    cases ha

end StaffIndex.Sql
