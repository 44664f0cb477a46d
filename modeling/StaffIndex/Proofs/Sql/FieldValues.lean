import StaffIndex.Employee.Staff
import StaffIndex.Proofs.Sql.Server
import StaffIndex.Sql.Stores

/-!
# The values of a record in the database

A record is a row with a cell for each field (`Shows`), and reading the column of a field takes the values of that field
out of it (`fieldValues_of_shows`), whichever fields are asked for, in whatever order, and how often. So a server that
has the records of the staff in its table tells the values that the staff tells (`values_of_server`).
-/

namespace StaffIndex.Sql

/-- A text, or null for none. -/
def Cell.ofText? : Option String → Cell
  | some v => .text v
  | none => .null

/-- What the column of a field holds of a record. -/
def fieldCell (e : Employee) : Field → Cell
  | .name => .text e.name
  | .surname => .text e.surname
  | .patronymic => .ofText? e.patronymic
  | .role => .ofText? e.role
  | .email => .ofText? e.email
  | .birthday => .ofText? e.birthday
  | .telegramId => .ofText? e.telegramId
  | .vkId => .ofText? e.vkId
  | .team => .ofText? e.team
  | .phones => .texts (e.phones.map some)

/-- The cell is what a row has of a record in the column of a field. No phones may also be null. -/
def Shows (e : Employee) (f : Field) (cell : Cell) : Prop :=
  cell = fieldCell e f ∨ f = .phones ∧ e.phones = [] ∧ cell = .null

/-! ## Reading one field -/

variable {e : Employee} {fields : List Field} {cells : List Cell} {f : Field}

theorem column_injective {f g : Field} (h : f.column = g.column) : f = g := by
  have hof := congrArg Field.ofColumn? h
  simpa using hof

/-- The column of a field that was asked for, once or more often, is there and shows the record. -/
theorem exists_cell_column (h : List.Forall₂ (Shows e) fields cells) (hf : f ∈ fields) :
    ∃ cell, NamedRow.cell ⟨fields.map Field.column, cells⟩ f.column = .ok cell ∧ Shows e f cell := by
  obtain ⟨hlength, hshows⟩ := List.forall₂_iff_zip.1 h
  have hzip : (fields.map Field.column).zip cells = (fields.zip cells).map (Prod.map Field.column id) :=
    List.zip_map_left
  have hmem : ∃ cell, (f.column, cell) ∈ ((fields.map Field.column).zip cells).reverse := by
    rw [← List.map_fst_zip (Nat.le_of_eq hlength)] at hf
    obtain ⟨⟨_, cell⟩, hin, rfl⟩ := List.mem_map.1 hf
    exact ⟨cell, by rw [List.mem_reverse, hzip]; exact List.mem_map_of_mem hin⟩
  -- a field that is asked for twice has two columns of one name, and both of them show it
  have hall : ∀ cell, (f.column, cell) ∈ ((fields.map Field.column).zip cells).reverse → Shows e f cell := by
    intro cell hin
    rw [List.mem_reverse, hzip] at hin
    obtain ⟨⟨g, _⟩, hg, heq⟩ := List.mem_map.1 hin
    obtain ⟨hcolumn, rfl⟩ := Prod.mk.inj heq
    exact column_injective hcolumn ▸ hshows hg
  obtain ⟨cell, hlookup, hshows⟩ := exists_lookup hmem hall
  exact ⟨cell, by rw [NamedRow.cell, hlookup], hshows⟩

variable {row : NamedRow} {name : String}

theorem text?_of_cell {v : Option String} (h : row.cell name = .ok (.ofText? v)) : row.text? name = .ok v := by
  rw [NamedRow.text?, NamedRow.value?, h]
  cases v <;> rfl

theorem text?_of_cell_text {v : String} (h : row.cell name = .ok (.text v)) : row.text? name = .ok (some v) :=
  text?_of_cell h

theorem textsOrNone_of_cell {vs : List String} (h : row.cell name = .ok (.texts (vs.map some))) :
    row.textsOrNone name = .ok vs := by
  rw [NamedRow.textsOrNone, NamedRow.value?, h]
  exact NamedRow.present_map_some name vs

theorem textsOrNone_of_cell_null (h : row.cell name = .ok .null) : row.textsOrNone name = .ok [] := by
  rw [NamedRow.textsOrNone, NamedRow.value?, h]
  rfl

/-- From a cell that shows a field of a record its values are read. -/
theorem fieldValues_of_shows {cell : Cell} (hcell : row.cell f.column = .ok cell) (h : Shows e f cell) :
    row.fieldValues f = .ok (e.values f) := by
  unfold NamedRow.fieldValues
  by_cases hf : f = .phones
  · subst hf
    rw [if_pos rfl]
    rcases h with rfl | ⟨-, hnone, rfl⟩
    · exact textsOrNone_of_cell hcell
    · rw [textsOrNone_of_cell_null hcell, Employee.values, hnone]
  · rw [if_neg hf]
    obtain rfl := h.resolve_right fun h => hf h.1
    cases f with
    | phones => exact absurd rfl hf
    | name | surname => rw [text?_of_cell_text hcell]; rfl
    | patronymic | role | email | birthday | telegramId | vkId | team => rw [text?_of_cell hcell]; rfl

/-! ## Reading fields -/

/-- The rows that a table of records has for an id: one that shows the record, or none. -/
def ShowsRecord (staff : Staff) (id : EmployeeId) (fields : List Field) (rows : List (List Cell)) : Prop :=
  match staff.find? id with
  | some e => ∃ cells, rows = [cells] ∧ List.Forall₂ (Shows e) fields cells
  | none => rows = []

/-- The server selects the columns of the fields from the row of the record with the id. Asked for no fields it selects
a number, so that it only shows whether there is a row. -/
def Server.SelectsFields (server : Server) (staff : Staff) (id : EmployeeId) (fields : List Field) : Prop :=
  if fields = [] then
    ∃ columns rows, server "SELECT 1 FROM employees WHERE id = $1" [.text id] = .rows columns rows ∧
      (rows = [] ↔ staff.find? id = none)
  else
    ∃ rows, server ("SELECT " ++ ", ".intercalate (fields.map Field.column) ++ " FROM employees WHERE id = $1")
      [.text id] = .rows (fields.map Field.column) rows ∧ ShowsRecord staff id fields rows

theorem selectFields_nil : selectFields [] = "SELECT 1 FROM employees WHERE id = $1" := rfl

theorem selectFields_of_ne_nil (h : fields ≠ []) : selectFields fields =
    "SELECT " ++ ", ".intercalate (fields.map Field.column) ++ " FROM employees WHERE id = $1" := by
  rw [selectFields, if_neg h]
  rfl

/-- What is made of the rows for a record. -/
def valuesRead (fields : List Field) (table : Table) : Except Failure (Option (List String)) :=
  Table.first? table fun row => (fields.mapM row.fieldValues).map List.flatten

theorem valuesRead_of_showsRecord {staff : Staff} {id : EmployeeId} {rows : List (List Cell)}
    (h : ShowsRecord staff id fields rows) :
    valuesRead fields (fields.map Field.column, rows) = .ok (staff.values? id fields) := by
  unfold ShowsRecord at h
  rw [Staff.values?]
  cases hfind : staff.find? id with
  | none =>
    rw [hfind] at h
    subst h
    rfl
  | some e =>
    rw [hfind] at h
    obtain ⟨cells, rfl, hshows⟩ := h
    have hread : fields.mapM (NamedRow.fieldValues ⟨fields.map Field.column, cells⟩) = .ok (fields.map e.values) := by
      refine mapM_eq_ok (List.forall₂_map_right_iff.2 (List.forall₂_same.2 fun f hf => ?_))
      obtain ⟨cell, hcell, hshow⟩ := exists_cell_column hshows hf
      exact fieldValues_of_shows hcell hshow
    rw [valuesRead, Table.first?]
    dsimp only
    rw [hread]
    rfl

theorem valuesRead_nil {staff : Staff} {id : EmployeeId} {columns : List String} {rows : List (List Cell)}
    (h : rows = [] ↔ staff.find? id = none) : valuesRead [] (columns, rows) = .ok (staff.values? id []) := by
  rw [Staff.values?]
  cases rows with
  | nil => rw [h.1 rfl]; rfl
  | cons cells rows =>
    obtain ⟨e, hfind⟩ := Option.ne_none_iff_exists'.1 fun hnone => List.cons_ne_nil _ _ (h.2 hnone)
    rw [hfind]
    rfl

/-- **The values of a record.** One query is sent, whose text depends on the fields alone. If the database has the
records of the staff, then what is made of its reply are the values that the staff has under the id in these fields,
and there are none to be told just when there is no record. -/
theorem values_of_server (id : EmployeeId) (fields : List Field) (c : Connection) :
    (values id fields c).2.sent = c.sent ++ [.query (selectFields fields) [.text id]] ∧
      ∀ (server : Server) (staff : Staff), server.SelectsFields staff id fields →
        c.AnsweredBy server (values id fields) →
        (values id fields c).1 = .ok (staff.values? id fields) ∧
          ((values id fields c).1 = .ok none ↔ staff.find? id = none) := by
  constructor
  · rw [values, query_ofExcept_apply]
  · intro server staff hserver hanswered
    have hread : (values id fields c).1 = (server (selectFields fields) [.text id]).table.bind (valuesRead fields) :=
      query_ofExcept_of_answeredBy hanswered
    have hvalues : (values id fields c).1 = .ok (staff.values? id fields) := by
      rw [hread]
      by_cases hfields : fields = []
      · subst hfields
        obtain ⟨columns, rows, hreply, hrows⟩ := hserver
        rw [selectFields_nil, hreply]
        exact valuesRead_nil hrows
      · rw [Server.SelectsFields, if_neg hfields] at hserver
        obtain ⟨rows, hreply, hrows⟩ := hserver
        rw [selectFields_of_ne_nil hfields, hreply]
        exact valuesRead_of_showsRecord hrows
    refine ⟨hvalues, ?_⟩
    rw [hvalues, Except.ok.injEq, Staff.values?, Option.map_eq_none_iff]

/-- A record with two phones and without a role. -/
def twoPhones : Employee := { id := "e1", name := "Anna", surname := "Orlova", phones := ["+7 901", "+7 902"] }

/-- A server that has this record and is asked for the phones twice. -/
def twoPhonesServer : Server := fun sql params =>
  if sql = "SELECT phones, role, phones, name FROM employees WHERE id = $1" then
    match params with
    | [.text "e1"] => .rows ["phones", "role", "phones", "name"]
      [[.texts [some "+7 901", some "+7 902"], .null, .texts [some "+7 901", some "+7 902"], .text "Anna"]]
    | _ => .rows ["phones", "role", "phones", "name"] []
  else .error "syntax error"

def repliedPhones : Connection where
  replies := [twoPhonesServer (selectFields [.phones, .role, .phones, .name]) [.text "e1"]]

theorem values_of_server_twoPhones :
    let fields : List Field := [.phones, .role, .phones, .name]
    twoPhonesServer.SelectsFields (Staff.empty.insert twoPhones) "e1" fields ∧
      repliedPhones.AnsweredBy twoPhonesServer (values "e1" fields) ∧
      (values "e1" fields repliedPhones).1 = .ok (some ["+7 901", "+7 902", "+7 901", "+7 902", "Anna"]) := by
  intro fields
  have hserver : twoPhonesServer.SelectsFields (Staff.empty.insert twoPhones) "e1" fields := by
    refine ⟨_, rfl, ?_⟩
    exact ⟨_, rfl, .cons (.inl rfl) (.cons (.inl rfl) (.cons (.inl rfl) (.cons (.inl rfl) .nil)))⟩
  have hanswered : repliedPhones.AnsweredBy twoPhonesServer (values "e1" fields) := ⟨_, rfl, List.prefix_refl _⟩
  exact ⟨hserver, hanswered, ((values_of_server "e1" fields repliedPhones).2 _ _ hserver hanswered).1⟩

end StaffIndex.Sql
