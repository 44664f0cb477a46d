import StaffIndex.Search.Ranking

/-!
# Weights

Only the rows that have an id count for its weight (`find?_weights_eq_foldl`, `foldl_weighed`), and an id that occurs in
no row has none (`find?_weights_eq_none`). So a ranking has no ids but those that occur (`occurs_of_mem_rank`). It is
sorted by a total order (`precedes_trans`, `precedes_total`).
-/

namespace StaffIndex.Search

variable {rows : List ScoredRow} {id : EmployeeId}

/-- The id occurs in one of the rows. -/
def Occurs (rows : List ScoredRow) (id : EmployeeId) : Prop := ∃ row ∈ rows, id ∈ row.ids

/-! ## The weight of an id -/

/-- What a row makes of the weight of an id. -/
def weighed (id : EmployeeId) (w : Option Weight) (row : ScoredRow) : Option Weight :=
  if id ∈ row.ids then some ((w.getD .zero).add row.score) else w

theorem find?_foldl_alter {α : Type} {f : Option α → Option α} {ids : List EmployeeId} (h : ids.Nodup)
    (ws : SortedMap α) (k : EmployeeId) :
    (ids.foldl (fun ws id => ws.alter id f) ws).find? k = if k ∈ ids then f (ws.find? k) else ws.find? k := by
  induction ids generalizing ws with
  | nil => simp
  | cons id ids ih =>
    obtain ⟨hid, hids⟩ := List.nodup_cons.1 h
    rw [List.foldl_cons, ih hids, SortedMap.find?_alter]
    by_cases hk : k = id
    · subst hk
      simp [hid]
    · simp [hk]

theorem find?_weights_eq_foldl (rows : List ScoredRow) (id : EmployeeId) :
    (weights rows).find? id = rows.foldl (weighed id) none := by
  suffices h : ∀ ws : SortedMap Weight, (rows.foldl (fun ws row => (SortedSet.ofList row.ids).toList.foldl
      (fun ws id => ws.alter id fun w => some ((w.getD .zero).add row.score)) ws) ws).find? id =
        rows.foldl (weighed id) (ws.find? id) from h .empty
  intro ws
  induction rows generalizing ws with
  | nil => rfl
  | cons row rows ih =>
    simp only [List.foldl_cons, ih, find?_foldl_alter (SortedSet.nodup_toList _), ← SortedSet.mem_def,
      SortedSet.mem_ofList, weighed]

/-- Only the rows that have the id count. -/
theorem foldl_weighed (rows : List ScoredRow) (id : EmployeeId) (w : Option Weight) : rows.foldl (weighed id) w =
    if (rows.filter (·.ids.contains id)) = [] then w
    else some ((rows.filter (·.ids.contains id)).foldl (fun w row => w.add row.score) (w.getD .zero)) := by
  induction rows generalizing w with
  | nil => rfl
  | cons row rows ih =>
    rw [List.foldl_cons, ih]
    by_cases hid : id ∈ row.ids
    · have hc : row.ids.contains id = true := List.contains_iff_mem.2 hid
      simp only [weighed, hid, if_true, Option.getD_some, List.filter_cons, hc, List.foldl_cons, reduceCtorEq, if_false]
      split
      · next hnil => rw [hnil]; rfl
      · rfl
    · simp [weighed, hid]

theorem filter_ne_nil_iff : rows.filter (·.ids.contains id) ≠ [] ↔ Occurs rows id := by
  rw [Ne, List.filter_eq_nil_iff]
  simp [Occurs]

theorem find?_weights_eq_none (ho : ¬ Occurs rows id) : (weights rows).find? id = none := by
  rw [find?_weights_eq_foldl, foldl_weighed, if_pos (Decidable.byContradiction fun h => ho (filter_ne_nil_iff.1 h))]

/-! ## The ranking -/

/-- All candidates, the best first. -/
def ranking (rows : List ScoredRow) : List EmployeeId := ((weights rows).entries.mergeSort precedes).map (·.1)

theorem rank_eq_take (rows : List ScoredRow) (limit : Nat) : rank rows limit = (ranking rows).take limit :=
  List.map_take

theorem precedes_trans (a b c : EmployeeId × Weight) (hab : precedes a b = true) (hbc : precedes b c = true) :
    precedes a c = true := by
  simp only [precedes, Bool.or_eq_true, Bool.and_eq_true, decide_eq_true_eq, beq_iff_eq] at hab hbc ⊢
  rcases hab with hab | ⟨hab, hid⟩
  · rcases hbc with hbc | ⟨hbc, -⟩ <;> exact .inl (by omega)
  · rcases hbc with hbc | ⟨hbc, hid'⟩
    · exact .inl (by omega)
    · exact .inr ⟨hab.trans hbc, Std.TransCmp.isLE_trans hid hid'⟩

theorem precedes_total (a b : EmployeeId × Weight) : (precedes a b || precedes b a) = true := by
  simp only [precedes, Bool.or_eq_true, Bool.and_eq_true, decide_eq_true_eq, beq_iff_eq]
  rcases Int.lt_trichotomy a.2.rank b.2.rank with hlt | heq | hgt
  · exact .inr (.inl hlt)
  · rcases hc : compare a.1 b.1 with _ | _ | _
    · exact .inl (.inr ⟨heq, rfl⟩)
    · exact .inl (.inr ⟨heq, rfl⟩)
    · exact .inr (.inr ⟨heq.symm, by rw [Std.OrientedCmp.gt_iff_lt.1 hc]; rfl⟩)
  · exact .inl (.inl hgt)

theorem occurs_of_mem_ranking (h : id ∈ ranking rows) : Occurs rows id := by
  obtain ⟨⟨k, w⟩, hm, rfl⟩ := List.mem_map.1 h
  have he : (weights rows).find? k = some w := SortedMap.mem_entries_iff.1 (List.mem_mergeSort.1 hm)
  refine Classical.byContradiction fun ho => ?_
  rw [find?_weights_eq_none ho] at he
  cases he

theorem occurs_of_mem_rank {limit : Nat} (h : id ∈ rank rows limit) : Occurs rows id :=
  occurs_of_mem_ranking (List.mem_of_mem_take (rank_eq_take rows limit ▸ h))

end StaffIndex.Search
