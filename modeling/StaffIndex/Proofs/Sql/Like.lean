import Mathlib.Data.List.Infix
import StaffIndex.Proofs.Search.Answers
import StaffIndex.Proofs.Sql.Server
import StaffIndex.Sql.Stores

/-!
# What patterns match

`Like` gives the rules of patterns one by one, `like` tries them with all ways to divide the text, and the two agree
(`like_iff`). An escaped text stands for itself: with the percent sign behind it, it matches what starts with the text
(`like_escape_iff`), and no backslash is left over (`dangling_escape_append`). So a server that goes by these rules
selects the rows that the stores in memory select (`prefixed_of_like`).
-/

namespace StaffIndex.Sql

/-- A pattern matches a text: a percent sign stands for any text, an underscore for any character, a backslash makes the
character after it stand for itself, as all other characters do anyway. -/
inductive Like : List Char → List Char → Prop
  | nil : Like [] []
  | anyText {pattern text : List Char} (skipped : List Char) : Like pattern text →
      Like ('%' :: pattern) (skipped ++ text)
  | anyChar {pattern text : List Char} (c : Char) : Like pattern text → Like ('_' :: pattern) (c :: text)
  | escaped {pattern text : List Char} (c : Char) : Like pattern text → Like ('\\' :: c :: pattern) (c :: text)
  | plain {pattern text : List Char} {c : Char} : c ≠ '%' → c ≠ '_' → c ≠ '\\' → Like pattern text →
      Like (c :: pattern) (c :: text)

/-- Does the pattern match the text? -/
def like : List Char → List Char → Bool
  | [], text => text.isEmpty
  | '%' :: pattern, text => text.tails.any fun rest => like pattern rest
  | '_' :: pattern, text => !text.isEmpty && like pattern text.tail
  | ['\\'], _ => false
  | '\\' :: c :: pattern, text => text.head? = some c && like pattern text.tail
  | c :: pattern, text => text.head? = some c && like pattern text.tail

/-- The last backslash has no character after it. -/
def dangling : List Char → Bool
  | [] => false
  | ['\\'] => true
  | '\\' :: _ :: pattern => dangling pattern
  | _ :: pattern => dangling pattern

/-! ## The rules, backwards -/

variable {pattern text start : List Char} {c : Char}

theorem like_nil_iff : Like [] text ↔ text = [] :=
  ⟨fun h => by cases h; rfl, fun h => h ▸ .nil⟩

/-- By its first character the pattern matches in one way only. -/
theorem like_cons_iff : Like (c :: pattern) text ↔
    c = '%' ∧ (∃ rest, rest <:+ text ∧ Like pattern rest) ∨
    c = '_' ∧ (∃ d rest, text = d :: rest ∧ Like pattern rest) ∨
    c = '\\' ∧ (∃ d more rest, pattern = d :: more ∧ text = d :: rest ∧ Like more rest) ∨
    (c ≠ '%' ∧ c ≠ '_' ∧ c ≠ '\\') ∧ ∃ rest, text = c :: rest ∧ Like pattern rest := by
  constructor
  · intro h
    cases h with
    | anyText skipped h => exact .inl ⟨rfl, _, List.suffix_append _ _, h⟩
    | anyChar d h => exact .inr (.inl ⟨rfl, d, _, rfl, h⟩)
    | escaped d h => exact .inr (.inr (.inl ⟨rfl, d, _, _, rfl, rfl, h⟩))
    | plain h₁ h₂ h₃ h => exact .inr (.inr (.inr ⟨⟨h₁, h₂, h₃⟩, _, rfl, h⟩))
  · rintro (⟨rfl, rest, ⟨skipped, rfl⟩, h⟩ | ⟨rfl, d, rest, rfl, h⟩ | ⟨rfl, d, more, rest, rfl, rfl, h⟩ |
      ⟨⟨h₁, h₂, h₃⟩, rest, rfl, h⟩)
    · exact .anyText skipped h
    · exact .anyChar d h
    · exact .escaped d h
    · exact .plain h₁ h₂ h₃ h

theorem head?_eq_and_iff {p : List Char → Prop} :
    (text.head? = some c ∧ p text.tail) ↔ ∃ rest, text = c :: rest ∧ p rest := by
  cases text <;> simp [eq_comm]

/-- Trying all ways to divide the text finds out whether the rules apply. -/
theorem like_iff : like pattern text ↔ Like pattern text := by
  fun_induction like pattern text with
  | case1 text => simp [like_nil_iff]
  | case2 pattern text ih => simp [like_cons_iff, ih]
  | case3 pattern text ih => cases text <;> simp_all [like_cons_iff]
  | case4 text => simp [like_cons_iff]
  | case5 text d pattern ih => simp [like_cons_iff, head?_eq_and_iff, ih]
  | case6 c pattern text hany hone hlast hescaped ih =>
    -- the cases before this one have taken all patterns that begin with a backslash
    have hplain : c ≠ '\\' := fun hc => by
      cases pattern with
      | nil => exact hlast hc rfl
      | cons d more => exact hescaped d more hc rfl
    simp [like_cons_iff, head?_eq_and_iff, ih, hplain, show c ≠ '%' from hany, show c ≠ '_' from hone]

instance : Decidable (Like pattern text) := decidable_of_iff _ like_iff

/-! ## Escaped texts -/

theorem escape_cons : escape (c :: start) = (if isSpecial c then ['\\', c] else [c]) ++ escape start := rfl

theorem ne_of_not_isSpecial (h : ¬ isSpecial c) : c ≠ '%' ∧ c ≠ '_' ∧ c ≠ '\\' := by
  simp only [isSpecial, Bool.or_eq_true, decide_eq_true_eq, not_or] at h
  exact ⟨h.1.2, h.2, h.1.1⟩

/-- An escaped character stands for itself. -/
theorem like_escape_cons_iff : Like (escape (c :: start) ++ pattern) text ↔
    ∃ rest, text = c :: rest ∧ Like (escape start ++ pattern) rest := by
  rw [escape_cons]
  by_cases hc : isSpecial c
  · simp [hc, like_cons_iff]
  · obtain ⟨h₁, h₂, h₃⟩ := ne_of_not_isSpecial hc
    simp [hc, like_cons_iff, h₁, h₂, h₃]

/-- **The pattern of a start.** It matches the texts with that start and no others. -/
theorem like_escape_iff (start text : List Char) : Like (escape start ++ ['%']) text ↔ start <+: text := by
  induction start generalizing text with
  | nil =>
    have hrest : Like ['%'] text := like_cons_iff.2 (.inl ⟨rfl, [], List.nil_suffix, .nil⟩)
    exact iff_of_true hrest List.nil_prefix
  | cons c start ih =>
    rw [like_escape_cons_iff]
    cases text with
    | nil => simp
    | cons d text => simp [ih, List.cons_prefix_cons, eq_comm]

/-- Unescaped, the underscore would stand for any character. -/
example : Like ['5', '_', '%'] ['5', '0'] ∧ ¬ Like (escape ['5', '_'] ++ ['%']) ['5', '0'] := by decide

theorem dangling_escape_append (start pattern : List Char) : dangling (escape start ++ pattern) = dangling pattern := by
  induction start with
  | nil => rfl
  | cons c start ih =>
    rw [escape_cons]
    by_cases hc : isSpecial c
    · simp [hc, dangling, ih]
    · obtain ⟨-, -, hplain⟩ := ne_of_not_isSpecial hc
      simp [hc, dangling, ih, hplain]

/-! ## Selecting by a pattern -/

/-- A row of the index as a row of its table. -/
def indexCells (row : Row) : List Cell := [.text row.key, .texts (row.ids.map some)]

/-- The query for the rows whose keys match a pattern. -/
def likeQuery : String := "SELECT key, ids FROM reverse_index WHERE key LIKE $1 ESCAPE '\\' ORDER BY key"

/-- The server holds the rows of the index and selects by patterns, whatever order it puts the keys in. -/
def Server.SelectsLike (server : Server) (index : Index) : Prop :=
  ∀ pattern : String, ¬ dangling pattern.toList → ∃ rows : List Row,
    rows.Perm (index.toRows.filter fun row => Like pattern.toList row.key.toList) ∧
    server likeQuery [.text pattern] = .rows ["key", "ids"] (rows.map indexCells)

theorem indexRow_indexCells (row : Row) : NamedRow.indexRow ⟨["key", "ids"], indexCells row⟩ = .ok row := by
  have hkey : NamedRow.text ⟨["key", "ids"], indexCells row⟩ "key" = .ok row.key := rfl
  have hids : NamedRow.texts ⟨["key", "ids"], indexCells row⟩ "ids" = .ok row.ids :=
    NamedRow.present_map_some "ids" row.ids
  rw [NamedRow.indexRow, hkey, hids]
  rfl

theorem rows_map_indexCells (rows : List Row) :
    Table.rows (["key", "ids"], rows.map indexCells) NamedRow.indexRow = .ok rows := by
  refine mapM_eq_ok (List.forall₂_map_left_iff.2 (List.forall₂_same.2 fun row _ => ?_))
  exact indexRow_indexCells row

variable {index : Index} {rows : List Row} {start : String}

/-- The rows with a start are in one order by ascending keys only. -/
theorem eq_prefixed_of_perm (hperm : rows.Perm (Stores.prefixed index start))
    (hascending : rows.Pairwise fun a b => (compare a.key b.key).isLE) : rows = Stores.prefixed index start := by
  refine hperm.eq_of_pairwise ?_ hascending ?_
  · intro a b ha hb hab hba
    have hkey : a.key = b.key := Std.LawfulEqOrd.compare_eq_iff_eq.1 (Std.OrientedCmp.isLE_antisymm hab hba)
    have ha' := Index.mem_toRows.1 (Search.mem_prefixed.1 (hperm.subset ha)).1
    have hb' := Index.mem_toRows.1 (Search.mem_prefixed.1 hb).1
    rw [hkey, hb', Option.some.injEq] at ha'
    cases a
    cases b
    simp_all
  · refine List.Pairwise.filter _ (List.pairwise_map.2 (index.rows.ascending.imp fun hlt => ?_))
    rw [hlt]
    rfl

theorem filter_like_startingWith (index : Index) (start : String) :
    (index.toRows.filter fun row => Like (startingWith start).toList row.key.toList) = Stores.prefixed index start := by
  refine List.filter_congr fun row _ => ?_
  rw [startingWith, String.toList_ofList, Bool.eq_iff_iff]
  simp [like_escape_iff]

/-- **Selecting by a start.** The pattern of a start matches just what begins with it, and leaves no backslash over. So
on a server that goes by the rules of patterns, asking for a start gives the rows that the index has for it, and by
ascending keys if that is the order of the server. -/
theorem prefixed_of_like :
    (∀ start key : List Char, Like (escape start ++ ['%']) key ↔ start <+: key) ∧
      (∀ start : List Char, ¬ dangling (escape start ++ ['%'])) ∧
      ∀ (server : Server) (index : Index) (start : String) (c : Connection),
        server.SelectsLike index → c.AnsweredBy server (prefixed start) →
        ∃ rows, (prefixed start c).1 = .ok rows ∧ rows.Perm (Stores.prefixed index start) ∧
          ((rows.Pairwise fun a b => (compare a.key b.key).isLE) → rows = Stores.prefixed index start) := by
  have hdangling : ∀ start : List Char, ¬ dangling (escape start ++ ['%']) := fun start => by
    rw [dangling_escape_append]
    decide
  refine ⟨like_escape_iff, hdangling, fun server index start c hserver hanswered => ?_⟩
  obtain ⟨rows, hperm, hreply⟩ := hserver (startingWith start) (by
    rw [startingWith, String.toList_ofList]
    exact hdangling start.toList)
  rw [filter_like_startingWith] at hperm
  have hread : (prefixed start c).1 = (server likeQuery [.text (startingWith start)]).table.bind fun table =>
      Table.rows table NamedRow.indexRow := query_ofExcept_of_answeredBy hanswered
  rw [hreply] at hread
  exact ⟨rows, hread.trans (rows_map_indexCells rows), hperm, eq_prefixed_of_perm hperm⟩

/-- A server that holds the index and knows no other query. -/
def Server.ofIndex (index : Index) : Server := fun sql params =>
  match params with
  | [.text pattern] =>
    if sql = likeQuery then
      .rows ["key", "ids"] ((index.toRows.filter fun row => Like pattern.toList row.key.toList).map indexCells)
    else .error "syntax error"
  | _ => .error "syntax error"

theorem selectsLike_ofIndex (index : Index) : (Server.ofIndex index).SelectsLike index :=
  fun _ _ => ⟨_, .refl _, by rw [Server.ofIndex, if_pos rfl]⟩

/-- Keys with a percent sign, a backslash, and what these would match if they were not escaped. -/
def discounts : Index :=
  (Index.empty.append "e1" ["50%\\_off", "500 off", "50%x_off"]).append "e2" ["50%\\_off", "50%\\"]

/-- The reply to a search for the keys that begin with `50%\`. -/
def repliedDiscounts : Connection where
  replies := [Server.ofIndex discounts likeQuery [.text (startingWith "50%\\")]]

theorem prefixed_of_like_percentSign :
    (Server.ofIndex discounts).SelectsLike discounts ∧
      repliedDiscounts.AnsweredBy (Server.ofIndex discounts) (prefixed "50%\\") ∧
      ∃ rows, (prefixed "50%\\" repliedDiscounts).1 = .ok rows ∧
        rows.Perm [⟨"50%\\", ["e2"]⟩, ⟨"50%\\_off", ["e1", "e2"]⟩] := by
  have hserver := selectsLike_ofIndex discounts
  have hanswered : repliedDiscounts.AnsweredBy (Server.ofIndex discounts) (prefixed "50%\\") :=
    ⟨_, rfl, List.prefix_refl _⟩
  have hrows : Stores.prefixed discounts "50%\\" = [⟨"50%\\", ["e2"]⟩, ⟨"50%\\_off", ["e1", "e2"]⟩] := by decide
  obtain ⟨rows, hok, hperm, -⟩ := prefixed_of_like.2.2 _ _ _ _ hserver hanswered
  exact ⟨hserver, hanswered, rows, hok, hrows ▸ hperm⟩

end StaffIndex.Sql
