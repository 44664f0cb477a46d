import StaffIndex.Error

/-!
# Talking to the database

Statements go to the database one after the other over a connection, which keeps a record of them. The database is known
by what it replies: the replies to come are listed, and the steps of a connection that fail are too. A statement that
has no reply gets one without rows.
-/

namespace StaffIndex.Sql

/-- The types that columns have. -/
inductive ColumnType where
  | text
  | texts
  | single
  deriving DecidableEq

namespace ColumnType

/-- The name in the database. -/
def name : ColumnType → String
  | text => "TEXT"
  | texts => "TEXT[]"
  | single => "FLOAT4"

/-- The name of the type that a value of the column is read as. -/
def valueName : ColumnType → String
  | text => "alloc::string::String"
  | texts => "alloc::vec::Vec<alloc::string::String>"
  | single => "f32"

end ColumnType

/-- What the value in a column is read as. -/
structure Wanted where
  type : ColumnType
  /-- May it be null? -/
  optional : Bool
  deriving DecidableEq

def Wanted.valueName (w : Wanted) : String :=
  if w.optional then s!"core::option::Option<{w.type.valueName}>" else w.type.valueName

/-- What can go wrong with the database. -/
inductive Failure where
  /-- The database refuses a statement or the connection. -/
  | refused (detail : String)
  | rowNotFound
  | poolTimedOut
  | poolClosed
  | workerCrashed
  | protocol (detail : String)
  | columnNotFound (name : String)
  | typeNotFound (name : String)
  /-- Null where a value is needed. -/
  | unexpectedNull (column : String)
  /-- A value of another type than the column should have. -/
  | unexpectedType (column : String) (wanted : Wanted) (found : ColumnType)
  deriving DecidableEq

namespace Failure

def message : Failure → String
  | refused detail => s!"error returned from database: {detail}"
  | rowNotFound => "no rows returned by a query that expected to return at least one row"
  | poolTimedOut => "pool timed out while waiting for an open connection"
  | poolClosed => "attempted to acquire a connection on a closed pool"
  | workerCrashed => "attempted to communicate with a crashed background worker"
  | protocol detail => s!"encountered unexpected or invalid data: {detail}"
  | columnNotFound name => s!"no column found for name: {name}"
  | typeNotFound name => s!"type named {name} not found"
  | unexpectedNull column =>
    s!"error occurred while decoding column \"{column}\": unexpected null; try decoding as an `Option`"
  | unexpectedType column wanted found =>
    s!"error occurred while decoding column \"{column}\": mismatched types; Rust type `{wanted.valueName}` " ++
      s!"(as SQL type `{wanted.type.name}`) is not compatible with SQL type `{found.name}`"

/-- A row that is not there is not found; everything else is an error of the database. -/
def toStoreError : Failure → StoreError
  | rowNotFound => .notFound "row"
  | f => .database f.message

end Failure

/-- A value that is sent along with a statement. -/
inductive Param where
  | text (s : String)
  | texts (ss : List String)
  | single (x : Float32)

/-- A value in a row. -/
inductive Cell where
  | null
  | text (s : String)
  /-- A list, in which values may be missing. -/
  | texts (ss : List (Option String))
  | single (x : Float32)

namespace Cell

/-- The type of a value, unless it is null. -/
def type? : Cell → Option ColumnType
  | null => none
  | text _ => some .text
  | texts _ => some .texts
  | single _ => some .single

def text? : Cell → Option String
  | text s => some s
  | _ => none

def texts? : Cell → Option (List (Option String))
  | texts ss => some ss
  | _ => none

def single? : Cell → Option Float32
  | single x => some x
  | _ => none

end Cell

/-- The steps of a connection that are not queries. -/
inductive Control where
  | connect
  | begin
  | commit
  | rollback
  deriving DecidableEq

inductive Statement where
  | control (c : Control)
  | query (sql : String) (params : List Param)

inductive Reply where
  | error (detail : String)
  | rows (columns : List String) (rows : List (List Cell))

structure Connection where
  /-- The replies to the queries to come. -/
  replies : List Reply := []
  failing : List (Control × String) := []
  /-- What has been sent, in order. -/
  sent : List Statement := []

/-- Something done over a connection. -/
abbrev Session (α : Type) := Connection → Except Failure α × Connection

namespace Session

variable {α β : Type}

def pure (a : α) : Session α := fun c => (.ok a, c)

def fail (e : Failure) : Session α := fun c => (.error e, c)

/-- One thing after the other, if the first succeeds. -/
def andThen (s : Session α) (f : α → Session β) : Session β := fun c =>
  match s c with
  | (.ok a, c) => f a c
  | (.error e, c) => (.error e, c)

/-- What was done, or what went wrong with the reply to it. -/
def ofExcept : Except Failure α → Session α
  | .ok a => pure a
  | .error e => fail e

end Session

/-- Opens the connection. -/
def connect : Session Unit := fun c =>
  match c.failing.lookup .connect with
  | some detail => (.error (.refused detail), c)
  | none => (.ok (), c)

/-- Sends a control statement. -/
def control (step : Control) : Session Unit := fun c =>
  let c := { c with sent := c.sent ++ [.control step] }
  match c.failing.lookup step with
  | some detail => (.error (.refused detail), c)
  | none => (.ok (), c)

/-- The columns and the rows of a reply. -/
abbrev Table := List String × List (List Cell)

/-- Sends a query and takes in the reply. -/
def query (sql : String) (params : List Param) : Session Table := fun c =>
  let sent := c.sent ++ [.query sql params]
  match c.replies with
  | [] => (.ok ([], []), { c with sent })
  | .error detail :: replies => (.error (.refused detail), { c with sent, replies })
  | .rows columns rows :: replies => (.ok (columns, rows), { c with sent, replies })

/-- Sends a query whose rows do not matter. -/
def execute (sql : String) (params : List Param) : Session Unit :=
  (query sql params).andThen fun _ => .pure ()

/-- Does something as a whole or not at all. A transaction that has begun and is given up is rolled back, whatever
becomes of that. -/
def transaction {α : Type} (body : Session α) : Session α :=
  (control .begin).andThen fun () c =>
    match (body.andThen fun a => (control .commit).andThen fun () => .pure a) c with
    | (.ok a, c) => (.ok a, c)
    | (.error e, c) => (.error e, (control .rollback c).2)

end StaffIndex.Sql
