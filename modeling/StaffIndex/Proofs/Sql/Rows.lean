import StaffIndex.Proofs.Sql.Server

/-!
# Which rows can be read

What a row needs in order to be read is said here of its columns, without reading anything. A column takes values of one
type, and null perhaps (`Column.Takes`); otherwise it is missing, its value is of another type, or there is a null where
none may be (`Column.Wrong`). A row can be read if all columns that are needed are there and right (`Readable`), and if not
the first one of them that is wrong is why (`Unreadable`).

Reading comes to that verdict: for one column (`judged_text` and the like), for one column after the other
(`Judged.bind`), and so for the rows of the index, of a ranked search, of summaries and of the values of fields.
-/

namespace StaffIndex.Sql

variable {α β : Type}

/-- A column that is needed, with the type of its values, and whether they may be null. -/
structure Column where
  name : String
  type : ColumnType
  nullable : Bool

/-- The row has that value in the column of that name, the last one if there are several. -/
def NamedRow.Has (row : NamedRow) (name : String) (c : Cell) : Prop :=
  ∃ before after, row.columns.zip row.cells = before ++ (name, c) :: after ∧ ∀ x ∈ after, x.1 ≠ name

/-- The values that can be read from the column. -/
inductive Column.Takes (col : Column) : Cell → Prop
  | null : col.nullable = true → Takes col .null
  | text (s : String) : col.type = .text → Takes col (.text s)
  | texts (ss : List String) : col.type = .texts → Takes col (.texts (ss.map some))
  | single (x : Float32) : col.type = .single → Takes col (.single x)

/-- What can be wrong with a row in the column. -/
inductive Column.Wrong (col : Column) (row : NamedRow) : Failure → Prop
  | missing : (∀ c, ¬ row.Has col.name c) → Wrong col row (.columnNotFound col.name)
  | null : row.Has col.name .null → col.nullable = false → Wrong col row (.unexpectedNull col.name)
  | mistyped {c : Cell} {found : ColumnType} : row.Has col.name c → c.type? = some found → found ≠ col.type →
    Wrong col row (.unexpectedType col.name ⟨col.type, col.nullable⟩ found)
  | nullInside {ss : List (Option String)} : row.Has col.name (.texts ss) → col.type = .texts → none ∈ ss →
    Wrong col row (.unexpectedNull col.name)

namespace NamedRow

/-- All columns are there and right. -/
def Readable (row : NamedRow) (columns : List Column) : Prop :=
  ∀ col ∈ columns, ∃ c, row.Has col.name c ∧ col.Takes c

/-- The first of the columns that is wrong is wrong in that way. -/
def Unreadable (row : NamedRow) (columns : List Column) (f : Failure) : Prop :=
  ∃ before col after, columns = before ++ col :: after ∧ row.Readable before ∧ col.Wrong row f

/-- What comes of reading these columns of a row, in this order. -/
inductive Judged (row : NamedRow) (columns : List Column) : Except Failure α → Prop
  | read {a : α} : row.Readable columns → Judged row columns (.ok a)
  | refused {f : Failure} : row.Unreadable columns f → Judged row columns (.error f)

variable {row : NamedRow} {name : String} {c : Cell} {col : Column} {columns more : List Column}

/-! ## Single columns -/

theorem cell_eq_ok_iff : row.cell name = .ok c ↔ row.Has name c := by
  have hlookup : row.cell name = .ok c ↔ (row.columns.zip row.cells).reverse.lookup name = some c := by
    unfold cell
    cases (row.columns.zip row.cells).reverse.lookup name <;> simp
  rw [hlookup, List.lookup_eq_some_iff]
  constructor
  · rintro ⟨after, before, h, hne⟩
    refine ⟨before.reverse, after.reverse, ?_, fun x hx heq => ?_⟩
    · simpa using congrArg List.reverse h
    · simpa [heq] using hne x (List.mem_reverse.1 hx)
  · rintro ⟨before, after, h, hne⟩
    refine ⟨after.reverse, before.reverse, by simp [h], fun x hx => ?_⟩
    simpa using Ne.symm (hne x (List.mem_reverse.1 hx))

theorem eq_columnNotFound_of_cell {f : Failure} (h : row.cell name = .error f) :
    (∀ c, ¬ row.Has name c) ∧ f = .columnNotFound name := by
  constructor
  · intro c hc
    rw [cell_eq_ok_iff.2 hc] at h
    cases h
  · unfold cell at h
    split at h
    · cases h
    · exact (Except.error.inj h).symm

/-- A column in which null may stand is missing, mistyped, null, or has a value of its type. -/
theorem value?_cases (row : NamedRow) (col : Column) {get : Cell → Option α}
    (hget : ∀ c, (get c).isSome ↔ c.type? = some col.type) :
    (∃ f, row.value? col.name ⟨col.type, col.nullable⟩ get = .error f ∧ col.Wrong row f) ∨
    (row.value? col.name ⟨col.type, col.nullable⟩ get = .ok none ∧ row.Has col.name .null) ∨
    ∃ c a, row.value? col.name ⟨col.type, col.nullable⟩ get = .ok (some a) ∧ row.Has col.name c ∧ get c = some a := by
  rw [value?]
  cases hcell : row.cell col.name with
  | error f =>
    obtain ⟨hnone, rfl⟩ := eq_columnNotFound_of_cell hcell
    exact .inl ⟨_, rfl, .missing hnone⟩
  | ok c =>
    have hc : row.Has col.name c := cell_eq_ok_iff.1 hcell
    cases htype : c.type? with
    | none =>
      obtain rfl : c = .null := by cases c <;> first | rfl | cases htype
      exact .inr (.inl ⟨rfl, hc⟩)
    | some found =>
      cases hvalue : get c with
      | none =>
        have hne : found ≠ col.type := fun heq => by simpa [hvalue] using (hget c).2 (heq ▸ htype)
        refine .inl ⟨_, ?_, .mistyped hc htype hne⟩
        simp only [bind, Except.bind, htype, hvalue]
      | some a =>
        refine .inr (.inr ⟨c, a, ?_, hc, hvalue⟩)
        simp only [bind, Except.bind, htype, hvalue]
        rfl

/-- Where null is not allowed it is one more thing that can be wrong. -/
theorem value_cases (row : NamedRow) (name : String) {type : ColumnType} {get : Cell → Option α}
    (hget : ∀ c, (get c).isSome ↔ c.type? = some type) :
    (∃ f, row.value name type get = .error f ∧ Column.Wrong ⟨name, type, false⟩ row f) ∨
    ∃ c a, row.value name type get = .ok a ∧ row.Has name c ∧ get c = some a := by
  have hcases := row.value?_cases ⟨name, type, false⟩ hget
  dsimp only at hcases
  rw [value]
  rcases hcases with ⟨f, h, hwrong⟩ | ⟨h, hnull⟩ | ⟨c, a, h, hc, ha⟩
  · exact .inl ⟨f, by rw [h]; rfl, hwrong⟩
  · exact .inl ⟨_, by rw [h]; rfl, .null hnull rfl⟩
  · exact .inr ⟨c, a, by rw [h]; rfl, hc, ha⟩

theorem exists_eq_map_some_or (ss : List (Option String)) : (∃ values : List String, ss = values.map some) ∨ none ∈ ss := by
  induction ss with
  | nil => exact .inl ⟨[], rfl⟩
  | cons v ss ih =>
    cases v with
    | none => exact .inr List.mem_cons_self
    | some v =>
      rcases ih with ⟨values, rfl⟩ | hnone
      · exact .inl ⟨v :: values, rfl⟩
      · exact .inr (List.mem_cons_of_mem _ hnone)

/-- A list with a null in it is not read. -/
theorem present_of_none_mem (name : String) {ss : List (Option String)} (h : none ∈ ss) :
    present name ss = .error (.unexpectedNull name) := by
  have hnone : ss.mapM id = none := by
    induction ss with
    | nil => cases h
    | cons v ss ih =>
      rw [List.mapM_cons]
      cases v with
      | none => rfl
      | some v => simp [ih (by simpa using h)]
  rw [present, hnone]

section Verdicts

theorem readable_singleton (h : row.Has col.name c) (hc : col.Takes c) : row.Readable [col] :=
  fun _ hmem => (List.mem_singleton.1 hmem) ▸ ⟨c, h, hc⟩

theorem unreadable_singleton {f : Failure} (h : col.Wrong row f) : row.Unreadable [col] f :=
  ⟨[], col, [], rfl, by simp [Readable], h⟩

/-- A list that is there is read unless it has a null in it. -/
theorem judged_present {ss : List (Option String)} {nullable : Bool} (h : row.Has name (.texts ss)) :
    row.Judged [⟨name, .texts, nullable⟩] (present name ss) := by
  rcases exists_eq_map_some_or ss with ⟨values, rfl⟩ | hnone
  · rw [present_map_some]
    exact .read (readable_singleton h (.texts values rfl))
  · rw [present_of_none_mem name hnone]
    exact .refused (unreadable_singleton (.nullInside h rfl hnone))

variable (row name)

theorem isSome_text?_iff (c : Cell) : c.text?.isSome ↔ c.type? = some .text := by
  cases c <;> simp [Cell.text?, Cell.type?]

theorem isSome_texts?_iff (c : Cell) : c.texts?.isSome ↔ c.type? = some .texts := by
  cases c <;> simp [Cell.texts?, Cell.type?]

theorem isSome_single?_iff (c : Cell) : c.single?.isSome ↔ c.type? = some .single := by
  cases c <;> simp [Cell.single?, Cell.type?]

theorem eq_text_of_text? {c : Cell} {s : String} (h : c.text? = some s) : c = .text s := by
  cases c <;> cases h
  rfl

theorem eq_texts_of_texts? {c : Cell} {ss : List (Option String)} (h : c.texts? = some ss) : c = .texts ss := by
  cases c <;> cases h
  rfl

theorem eq_single_of_single? {c : Cell} {x : Float32} (h : c.single? = some x) : c = .single x := by
  cases c <;> cases h
  rfl

/-- A value that the column takes as it is read. -/
theorem judged_value {type : ColumnType} {get : Cell → Option α} (hget : ∀ c, (get c).isSome ↔ c.type? = some type)
    (htakes : ∀ {c a}, get c = some a → Column.Takes ⟨name, type, false⟩ c) :
    row.Judged [⟨name, type, false⟩] (row.value name type get) := by
  obtain ⟨f, h, hwrong⟩ | ⟨c, a, h, hc, ha⟩ := row.value_cases name hget
  · rw [h]
    exact .refused (unreadable_singleton hwrong)
  · rw [h]
    exact .read (readable_singleton hc (htakes ha))

theorem judged_text : row.Judged [⟨name, .text, false⟩] (row.text name) :=
  row.judged_value name isSome_text?_iff fun {_ s} h => eq_text_of_text? h ▸ .text s rfl

theorem judged_single : row.Judged [⟨name, .single, false⟩] (row.single name) :=
  row.judged_value name isSome_single?_iff fun {_ x} h => eq_single_of_single? h ▸ .single x rfl

theorem judged_texts : row.Judged [⟨name, .texts, false⟩] (row.texts name) := by
  rw [texts]
  obtain ⟨f, h, hwrong⟩ | ⟨c, ss, h, hc, hss⟩ := row.value_cases name isSome_texts?_iff
  · rw [h]
    exact .refused (unreadable_singleton hwrong)
  · rw [h]
    obtain rfl := eq_texts_of_texts? hss
    exact judged_present hc

theorem judged_text? : row.Judged [⟨name, .text, true⟩] (row.text? name) := by
  rw [text?]
  obtain ⟨f, h, hwrong⟩ | ⟨h, hnull⟩ | ⟨c, s, h, hc, hs⟩ := row.value?_cases ⟨name, .text, true⟩ isSome_text?_iff
  · rw [h]
    exact .refused (unreadable_singleton hwrong)
  · rw [h]
    exact .read (readable_singleton hnull (.null rfl))
  · rw [h]
    obtain rfl := eq_text_of_text? hs
    exact .read (readable_singleton hc (.text s rfl))

theorem judged_textsOrNone : row.Judged [⟨name, .texts, true⟩] (row.textsOrNone name) := by
  rw [textsOrNone]
  obtain ⟨f, h, hwrong⟩ | ⟨h, hnull⟩ | ⟨c, ss, h, hc, hss⟩ := row.value?_cases ⟨name, .texts, true⟩ isSome_texts?_iff
  · rw [h]
    exact .refused (unreadable_singleton hwrong)
  · rw [h]
    exact .read (readable_singleton hnull (.null rfl))
  · rw [h]
    obtain rfl := eq_texts_of_texts? hss
    exact judged_present hc

end Verdicts

/-! ## One column after the other -/

theorem judged_pure (row : NamedRow) (a : α) : row.Judged [] (pure a : Except Failure α) :=
  .read fun _ hcol => absurd hcol List.not_mem_nil

theorem Judged.bind {x : Except Failure α} {next : α → Except Failure β} (h : row.Judged columns x)
    (hnext : ∀ a, row.Judged more (next a)) : row.Judged (columns ++ more) (x >>= next) := by
  cases h with
  | refused hcolumns =>
    obtain ⟨before, col, after, rfl, hbefore, hcol⟩ := hcolumns
    exact .refused ⟨before, col, after ++ more, by simp, hbefore, hcol⟩
  | @read a hcolumns =>
    have hmore := hnext a
    change row.Judged (columns ++ more) (next a)
    cases hresult : next a with
    | ok b =>
      rw [hresult] at hmore
      cases hmore with
      | read hmore => exact .read (List.forall_mem_append.2 ⟨hcolumns, hmore⟩)
    | error f =>
      rw [hresult] at hmore
      cases hmore with
      | refused hmore =>
        obtain ⟨before, col, after, rfl, hbefore, hcol⟩ := hmore
        exact .refused ⟨columns ++ before, col, after, by simp, List.forall_mem_append.2 ⟨hcolumns, hbefore⟩, hcol⟩

theorem Judged.map {x : Except Failure α} (h : row.Judged columns x) (f : α → β) : row.Judged columns (x.map f) := by
  cases h with
  | read hcolumns => exact .read hcolumns
  | refused hcolumns => exact .refused hcolumns

end NamedRow

/-! ## Exclusion -/

theorem NamedRow.Has.eq {row : NamedRow} {name : String} {c c' : Cell} (h : row.Has name c) (h' : row.Has name c') :
    c = c' :=
  Except.ok.inj ((cell_eq_ok_iff.2 h).symm.trans (cell_eq_ok_iff.2 h'))

theorem Column.Wrong.not_takes {col : Column} {row : NamedRow} {f : Failure} (h : col.Wrong row f) {c : Cell}
    (hc : row.Has col.name c) : ¬ col.Takes c := by
  intro htakes
  cases h with
  | missing hnone => exact hnone c hc
  | null hnull hneeded =>
    cases hc.eq hnull
    cases htakes with
    | null hnullable => simp [hneeded] at hnullable
  | mistyped hfound htype hne =>
    cases hc.eq hfound
    cases htakes with
    | null => cases htype
    | text _ hcol | texts _ hcol | single _ hcol => exact hne ((Option.some.inj htype).symm.trans hcol.symm)
  | nullInside hlist _ hnone =>
    cases hc.eq hlist
    cases htakes with
    | texts values => simp at hnone

/-- Where a column is wrong the row cannot be read. -/
theorem NamedRow.Unreadable.not_readable {row : NamedRow} {columns : List Column} {f : Failure}
    (h : row.Unreadable columns f) : ¬ row.Readable columns := by
  obtain ⟨before, col, after, rfl, -, hwrong⟩ := h
  intro hreadable
  obtain ⟨c, hc, htakes⟩ := hreadable col (by simp)
  exact hwrong.not_takes hc htakes

/-! ## Rows -/

namespace Column

/-- A row of the index. -/
def index : List Column := [⟨"key", .text, false⟩, ⟨"ids", .texts, false⟩]

def scored : List Column := [⟨"key", .text, false⟩, ⟨"ids", .texts, false⟩, ⟨"score", .single, false⟩]

def summary : List Column :=
  [⟨"id", .text, false⟩, ⟨"name", .text, false⟩, ⟨"surname", .text, false⟩, ⟨"patronymic", .text, true⟩,
    ⟨"photo_link", .text, true⟩]

/-- The values of a field may all be missing, and only the phones are a list. -/
def ofField (f : Field) : Column := ⟨f.column, if f = .phones then .texts else .text, true⟩

end Column

namespace NamedRow

variable (row : NamedRow)

theorem judged_indexRow : row.Judged Column.index row.indexRow :=
  (row.judged_text "key").bind fun _ => (row.judged_texts "ids").bind fun _ => row.judged_pure _

theorem judged_scoredRow : row.Judged Column.scored row.scoredRow :=
  (row.judged_text "key").bind fun _ => (row.judged_texts "ids").bind fun _ => (row.judged_single "score").bind fun _ =>
    row.judged_pure _

theorem judged_summary : row.Judged Column.summary row.summary :=
  (row.judged_text "id").bind fun _ => (row.judged_text "name").bind fun _ => (row.judged_text "surname").bind fun _ =>
    (row.judged_text? "patronymic").bind fun _ => (row.judged_text? "photo_link").bind fun _ => row.judged_pure _

theorem judged_fieldValues (f : Field) : row.Judged [Column.ofField f] (row.fieldValues f) := by
  rw [fieldValues, Column.ofField]
  split
  · exact row.judged_textsOrNone f.column
  · exact (row.judged_text? f.column).map _

/-- Fields are read in the order in which they are asked for. -/
theorem judged_mapM_fieldValues (fields : List Field) :
    row.Judged (fields.map Column.ofField) (fields.mapM row.fieldValues) := by
  induction fields with
  | nil => exact row.judged_pure []
  | cons f fields ih =>
    rw [List.mapM_cons]
    have hrest (values : List String) := ih.bind fun rest => row.judged_pure (values :: rest)
    simp only [List.append_nil] at hrest
    exact (row.judged_fieldValues f).bind hrest

end NamedRow

end StaffIndex.Sql
