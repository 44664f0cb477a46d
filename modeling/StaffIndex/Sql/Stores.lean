import StaffIndex.Sql.Like
import StaffIndex.Sql.Row

/-!
# Stores in a database

The statements that answer each request, and those that set up the tables. A request about nothing needs no statement.
-/

namespace StaffIndex.Sql

/-- The statements that set up what is missing. -/
def setup : List String := [
  "CREATE EXTENSION IF NOT EXISTS pg_trgm",
  "CREATE TABLE IF NOT EXISTS employees ( id TEXT PRIMARY KEY, name TEXT NOT NULL, surname TEXT NOT NULL, " ++
    "patronymic TEXT, role TEXT, email TEXT, birthday TEXT, telegram_id TEXT, vk_id TEXT, team TEXT, " ++
    "phones TEXT[] NOT NULL DEFAULT '\x7b\x7d', photo_link TEXT )",
  "CREATE TABLE IF NOT EXISTS reverse_index ( key TEXT PRIMARY KEY, ids TEXT[] NOT NULL )",
  "CREATE INDEX IF NOT EXISTS reverse_index_key_trgm ON reverse_index USING gin (key gin_trgm_ops)"]

/-- Does the statements one after the other. -/
def executeAll : List String → Session Unit
  | [] => .pure ()
  | sql :: rest => (execute sql []).andThen fun () => executeAll rest

def migrate : Session Unit := executeAll setup

def append (id : EmployeeId) (keys : List String) : Session Unit :=
  if keys = [] then .pure ()
  else execute ("INSERT INTO reverse_index (key, ids) SELECT key, ARRAY[$1::text] FROM unnest($2::text[]) AS key " ++
    "ON CONFLICT (key) DO UPDATE SET ids = array_append(reverse_index.ids, $1::text)") [.text id, .texts keys]

def remove (id : EmployeeId) (keys : List String) : Session Unit :=
  if keys = [] then .pure ()
  else transaction <|
    (execute "UPDATE reverse_index SET ids = array_remove(ids, $1) WHERE key = ANY($2)"
      [.text id, .texts keys]).andThen fun () =>
    execute "DELETE FROM reverse_index WHERE key = ANY($1) AND cardinality(ids) = 0" [.texts keys]

def lookup (key : String) : Session (Option (List EmployeeId)) :=
  (query "SELECT key, ids FROM reverse_index WHERE key = $1" [.text key]).andThen fun table =>
    .ofExcept ((Table.first? table NamedRow.indexRow).map fun row => row.map (·.ids))

def similar (tokens : List String) (threshold : Float) : Session (List ScoredRow) :=
  (query ("SELECT r.key, r.ids, similarity(t.token, r.key) AS score FROM reverse_index AS r, " ++
    "unnest($1::text[]) AS t(token) WHERE similarity(t.token, r.key) > $2")
    [.texts tokens, .single threshold.toFloat32]).andThen fun table =>
    .ofExcept (Table.rows table NamedRow.scoredRow)

def prefixed (start : String) : Session (List Row) :=
  (query "SELECT key, ids FROM reverse_index WHERE key LIKE $1 ESCAPE '\\' ORDER BY key"
    [.text (startingWith start)]).andThen fun table =>
    .ofExcept (Table.rows table NamedRow.indexRow)

def summaries (ids : List EmployeeId) : Session (List Summary) :=
  if ids = [] then .pure []
  else (query ("SELECT e.id, e.name, e.surname, e.patronymic, e.photo_link FROM employees AS e " ++
    "JOIN unnest($1::text[]) WITH ORDINALITY AS t(id, ord) USING (id) ORDER BY t.ord") [.texts ids]).andThen
    fun table => .ofExcept (Table.rows table NamedRow.summary)

/-- The statement that selects the columns of the fields, or only tells whether there is a row. -/
def selectFields (fields : List Field) : String :=
  let columns := if fields = [] then "1" else ", ".intercalate (fields.map Field.column)
  s!"SELECT {columns} FROM employees WHERE id = $1"

def values (id : EmployeeId) (fields : List Field) : Session (Option (List String)) :=
  (query (selectFields fields) [.text id]).andThen fun table =>
    .ofExcept (Table.first? table fun row => (fields.mapM row.fieldValues).map List.flatten)

def answer : (r : Request) → Session r.Reply
  | .append id keys => append id keys
  | .remove id keys => remove id keys
  | .lookup key => lookup key
  | .similar tokens threshold => similar tokens threshold
  | .prefixed start => prefixed start
  | .summaries ids => summaries ids
  | .values id fields => values id fields

/-- Runs a plan against the database. -/
def run {ε α : Type} [RaisedByStore ε] : Plan ε α → Connection → Except ε α × Connection
  | .done a, c => (.ok a, c)
  | .fail e, c => (.error e, c)
  | .ask r next, c => match answer r c with
    | (.ok x, c) => run (next x) c
    | (.error e, c) => (.error (RaisedByStore.ofStore e.toStoreError), c)

end StaffIndex.Sql
