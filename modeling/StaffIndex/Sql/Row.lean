import StaffIndex.Plan
import StaffIndex.Sql.Connection

/-!
# Reading rows

Rows are read by the names of their columns. Of several columns of one name the last counts.
-/

namespace StaffIndex.Sql

/-- A row with the names of its columns. -/
structure NamedRow where
  columns : List String
  cells : List Cell

namespace NamedRow

/-- The value in the column of that name. -/
def cell (row : NamedRow) (name : String) : Except Failure Cell :=
  match (row.columns.zip row.cells).reverse.lookup name with
  | some c => .ok c
  | none => .error (.columnNotFound name)

/-- The value in a column as `get` reads it, unless it is null. -/
def value? {α : Type} (row : NamedRow) (name : String) (wanted : Wanted) (get : Cell → Option α) :
    Except Failure (Option α) := do
  let c ← row.cell name
  match c.type?, get c with
  | none, _ => return none
  | some _, some a => return some a
  | some found, none => .error (.unexpectedType name wanted found)

/-- The value in a column where null is not allowed. -/
def value {α : Type} (row : NamedRow) (name : String) (type : ColumnType) (get : Cell → Option α) :
    Except Failure α := do
  match ← row.value? name ⟨type, false⟩ get with
  | some a => return a
  | none => .error (.unexpectedNull name)

/-- The values of a list, none of which may be null. -/
def present (name : String) (values : List (Option String)) : Except Failure (List String) :=
  match values.mapM id with
  | some values => .ok values
  | none => .error (.unexpectedNull name)

def text (row : NamedRow) (name : String) : Except Failure String := row.value name .text Cell.text?

def text? (row : NamedRow) (name : String) : Except Failure (Option String) :=
  row.value? name ⟨.text, true⟩ Cell.text?

def texts (row : NamedRow) (name : String) : Except Failure (List String) := do
  present name (← row.value name .texts Cell.texts?)

/-- The values of a list that may be null as a whole, which then has none. -/
def textsOrNone (row : NamedRow) (name : String) : Except Failure (List String) := do
  match ← row.value? name ⟨.texts, true⟩ Cell.texts? with
  | some values => present name values
  | none => return []

def single (row : NamedRow) (name : String) : Except Failure Float32 := row.value name .single Cell.single?

def indexRow (row : NamedRow) : Except Failure Row := do
  let key ← row.text "key"
  let ids ← row.texts "ids"
  return ⟨key, ids⟩

def scoredRow (row : NamedRow) : Except Failure ScoredRow := do
  let key ← row.text "key"
  let ids ← row.texts "ids"
  let score ← row.single "score"
  return ⟨key, ids, score.toFloat⟩

def summary (row : NamedRow) : Except Failure Summary := do
  let id ← row.text "id"
  let name ← row.text "name"
  let surname ← row.text "surname"
  let patronymic ← row.text? "patronymic"
  let photoLink ← row.text? "photo_link"
  return ⟨id, name, surname, patronymic, photoLink⟩

/-- The values of a field: none for null, one for each phone. -/
def fieldValues (row : NamedRow) (field : Field) : Except Failure (List String) :=
  if field = .phones then row.textsOrNone field.column
  else (row.text? field.column).map Option.toList

end NamedRow

namespace Table

/-- Reads every row. -/
def rows {α : Type} (table : Table) (read : NamedRow → Except Failure α) : Except Failure (List α) :=
  table.2.mapM fun cells => read ⟨table.1, cells⟩

/-- Reads the first row, if there is one. -/
def first? {α : Type} (table : Table) (read : NamedRow → Except Failure α) : Except Failure (Option α) :=
  match table.2 with
  | [] => .ok none
  | cells :: _ => (read ⟨table.1, cells⟩).map some

end Table

end StaffIndex.Sql
