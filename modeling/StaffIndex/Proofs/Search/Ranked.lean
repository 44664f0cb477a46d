import Mathlib.Data.List.Sort
import StaffIndex.Proofs.Search.Answers
import StaffIndex.Proofs.Search.Weights
import StaffIndex.Proofs.Text.Similarity
import StaffIndex.Service.Access

/-!
# What the ranked search finds

The rows that resemble a token are fixed by the index, the tokens and the threshold alone (`Matches`), and so is the
order in which their ids are ranked (`Outranks`): by the sum of the scores of the rows that have the id, then by the id.

- The conditions determine the rows (`Matches.unique`) and the first ids in this order (`Best.unique`).
- The scores are numbers without a sign, so no sum is undefined, and the weight of an id is just the sum of its scores
  (`find?_weights`).
- The ranking lists the ids that occur in the rows, each once, in this order (`mem_ranking`, `nodup_ranking`,
  `pairwise_ranking`), and a search returns the first of them that are stored (`ranked_best`).
-/

namespace StaffIndex.Search

open Stores

variable {rows : List ScoredRow} {id : EmployeeId}

/-! ## The specification -/

/-- The rows that resemble a token: by ascending key, and for each key one row for each token that it resembles, in the
order of the tokens. -/
structure Matches (index : Index) (tokens : List String) (threshold : Float) (rows : List ScoredRow) : Prop where
  ascending : rows.Pairwise fun a b => (compare a.key b.key).isLE
  rows_at : ∀ key, rows.filter (·.key = key) = match index.find? key with
    | none => []
    | some ids => (tokens.filter fun token => Text.similarity token key > threshold).map fun token =>
        ⟨key, ids, Text.similarity token key⟩

/-- The scores of the rows that have the id, added up in their order. -/
def weight (rows : List ScoredRow) (id : EmployeeId) : Float :=
  (rows.filter (·.ids.contains id)).foldl (fun sum row => sum + row.score) 0.0

/-- The place of a number in the total order of floating-point numbers. It is the bit pattern, counted down from below
zero if there is a sign. -/
def place (x : Float) : Int :=
  if x.toBits.toNat < 0x8000000000000000 then x.toBits.toNat else 0x7FFFFFFFFFFFFFFF - x.toBits.toNat

/-- The first id is heavier, or as heavy and smaller. -/
def Outranks (rows : List ScoredRow) (a b : EmployeeId) : Prop :=
  place (weight rows b) < place (weight rows a) ∨
    place (weight rows a) = place (weight rows b) ∧ compare a b = .lt

/-- The first `limit` of the ids that occur in the rows. -/
structure Best (rows : List ScoredRow) (limit : Nat) (chosen : List EmployeeId) : Prop where
  occurs : ∀ id ∈ chosen, Occurs rows id
  nodup : chosen.Nodup
  ordered : chosen.Pairwise (Outranks rows)
  length_le : chosen.length ≤ limit
  /-- An id is left out only if there is no place for it after the chosen ones, which all outrank it. -/
  omitted : ∀ id, Occurs rows id → id ∉ chosen → chosen.length = limit ∧ ∀ c ∈ chosen, Outranks rows c id

namespace Outranks

theorem asymm {a b : EmployeeId} (h : Outranks rows a b) : ¬ Outranks rows b a := by
  intro h'
  rcases h with hlt | ⟨heq, hab⟩
  · rcases h' with hgt | ⟨heq, -⟩ <;> omega
  · rcases h' with hgt | ⟨-, hba⟩
    · omega
    · rw [Std.OrientedCmp.gt_of_lt hab] at hba
      cases hba

instance : Std.Irrefl (Outranks rows) := ⟨fun _ h => h.asymm h⟩

instance : Std.Antisymm (Outranks rows) := ⟨fun _ _ h h' => absurd h' h.asymm⟩

end Outranks

/-- If one list had an id that the other one leaves out, the other one would be full, hence have an id in return that
the first leaves out, and of the two ids each would outrank the other. -/
theorem Best.subset {limit : Nat} {chosen other : List EmployeeId} (h : Best rows limit chosen)
    (h' : Best rows limit other) : chosen ⊆ other := by
  intro id hid
  refine Classical.byContradiction fun hout => ?_
  obtain ⟨hfull, hover⟩ := h'.omitted id (h.occurs id hid) hout
  have hex : ∃ c ∈ other, c ∉ chosen := by
    refine Classical.byContradiction fun hno => hout ?_
    have hsub : other ⊆ chosen := fun c hc => Classical.byContradiction fun hc' => hno ⟨c, hc, hc'⟩
    have hle : chosen.length ≤ other.length := hfull ▸ h.length_le
    exact ((List.subperm_of_subset h'.nodup hsub).perm_of_length_le hle).mem_iff.2 hid
  obtain ⟨c, hc, hc'⟩ := hex
  exact (hover c hc).asymm ((h.omitted c (h'.occurs c hc) hc').2 id hid)

theorem Best.unique {limit : Nat} {chosen other : List EmployeeId} (h : Best rows limit chosen)
    (h' : Best rows limit other) : chosen = other :=
  h.ordered.eq_of_mem_iff h'.ordered fun _ => ⟨(h.subset h' ·), (h'.subset h ·)⟩

theorem mem_iff_of_filter_key {rows other : List ScoredRow}
    (h : ∀ key, rows.filter (·.key = key) = other.filter (·.key = key)) (row : ScoredRow) :
    row ∈ rows ↔ row ∈ other := by
  have hrow : row ∈ rows.filter (·.key = row.key) ↔ row ∈ other.filter (·.key = row.key) := by rw [h]
  simpa using hrow

/-- Rows by ascending key are determined by the rows of each key. -/
theorem eq_of_filter_key {rows other : List ScoredRow} (h : rows.Pairwise fun a b => (compare a.key b.key).isLE)
    (h' : other.Pairwise fun a b => (compare a.key b.key).isLE)
    (hkey : ∀ key, rows.filter (·.key = key) = other.filter (·.key = key)) : rows = other := by
  induction rows generalizing other with
  | nil => exact List.eq_nil_iff_forall_not_mem.2 (fun row hr => List.not_mem_nil
      ((mem_iff_of_filter_key hkey row).2 hr)) |>.symm
  | cons a rows ih =>
    have hmem := mem_iff_of_filter_key hkey
    obtain _ | ⟨b, other⟩ := other
    · exact absurd ((hmem a).1 (.head _)) List.not_mem_nil
    obtain ⟨ha, hrows⟩ := List.pairwise_cons.1 h
    obtain ⟨hb, hother⟩ := List.pairwise_cons.1 h'
    have hab : a.key = b.key := by
      rcases List.mem_cons.1 ((hmem b).2 (.head _)) with heq | hin
      · rw [heq]
      rcases List.mem_cons.1 ((hmem a).1 (.head _)) with heq | hin'
      · rw [heq]
      exact Std.LawfulEqOrd.compare_eq_iff_eq.1 (Std.OrientedCmp.isLE_antisymm (ha b hin) (hb a hin'))
    have hcons : a :: rows.filter (·.key = a.key) = b :: other.filter (·.key = a.key) := by
      have := hkey a.key
      rwa [List.filter_cons_of_pos (by simp), List.filter_cons_of_pos (by simp [hab])] at this
    obtain ⟨rfl, -⟩ := List.cons.inj hcons
    have hrest : ∀ key, rows.filter (·.key = key) = other.filter (·.key = key) := by
      intro key
      have := hkey key
      simp only [List.filter_cons] at this
      split at this
      · exact (List.cons.inj this).2
      · exact this
    rw [ih hrows hother hrest]

theorem Matches.unique {index : Index} {tokens : List String} {threshold : Float} {rows other : List ScoredRow}
    (h : Matches index tokens threshold rows) (h' : Matches index tokens threshold other) : rows = other :=
  eq_of_filter_key h.ascending h'.ascending fun key => (h.rows_at key).trans (h'.rows_at key).symm

/-! ## Weights -/

/-- Sums of numbers without a sign never cancel. -/
theorem foldl_add (rows : List ScoredRow) (h : ∀ row ∈ rows, Binary64.NonNegative row.score) {x : Float}
    (hx : Binary64.NonNegative x) : rows.foldl (fun w row => w.add row.score) (⟨x, false⟩ : Weight) =
      ⟨rows.foldl (fun sum row => sum + row.score) x, false⟩ := by
  induction rows generalizing x with
  | nil => rfl
  | cons row rows ih =>
    have hsum : Binary64.NonNegative (x + row.score) := hx.add (h row (.head _))
    have hadd : Weight.add ⟨x, false⟩ row.score = ⟨x + row.score, false⟩ := by
      rw [Weight.add, hsum.isNaN]
      rfl
    rw [List.foldl_cons, List.foldl_cons, hadd]
    exact ih (fun row hr => h row (.tail _ hr)) hsum

/-- The weight of an id is the sum of the scores of the rows that have it. -/
theorem find?_weights (h : ∀ row ∈ rows, Binary64.NonNegative row.score) (ho : Occurs rows id) :
    (weights rows).find? id = some ⟨weight rows id, false⟩ := by
  rw [find?_weights_eq_foldl, foldl_weighed, if_neg (filter_ne_nil_iff.2 ho)]
  exact congrArg some (foldl_add _ (fun row hr => h row ((List.mem_filter.1 hr).1)) .zero)

/-! ## The ranking -/

theorem mem_ranking (h : ∀ row ∈ rows, Binary64.NonNegative row.score) : id ∈ ranking rows ↔ Occurs rows id := by
  refine ⟨occurs_of_mem_ranking, fun ho => ?_⟩
  have he : (id, ⟨weight rows id, false⟩) ∈ (weights rows).entries :=
    SortedMap.mem_entries_iff.2 (find?_weights h ho)
  exact List.mem_map.2 ⟨_, List.mem_mergeSort.2 he, rfl⟩

theorem nodup_ranking (rows : List ScoredRow) : (ranking rows).Nodup :=
  ((List.mergeSort_perm _ _).map _).nodup_iff.2 (weights rows).nodup_keys

/-- The total order of the weights is the total order of the sums. -/
theorem rank_eq_place (x : Float) : Weight.rank ⟨x, false⟩ = place x := rfl

theorem outranks_of_precedes {a b : EmployeeId} (hne : a ≠ b)
    (h : precedes (a, ⟨weight rows a, false⟩) (b, ⟨weight rows b, false⟩) = true) : Outranks rows a b := by
  simp only [precedes, Bool.or_eq_true, Bool.and_eq_true, decide_eq_true_eq, beq_iff_eq] at h
  rw [rank_eq_place, rank_eq_place] at h
  rcases h with hlt | ⟨heq, hle⟩
  · exact .inl hlt
  · refine .inr ⟨heq, ?_⟩
    rcases hc : compare a b with _ | _ | _
    · rfl
    · exact absurd (Std.LawfulEqOrd.compare_eq_iff_eq.1 hc) hne
    · rw [hc] at hle
      cases hle

theorem pairwise_ranking (h : ∀ row ∈ rows, Binary64.NonNegative row.score) :
    (ranking rows).Pairwise (Outranks rows) := by
  have hentry : ∀ e ∈ (weights rows).entries.mergeSort precedes, e.2 = ⟨weight rows e.1, false⟩ := by
    intro e he
    have hf : (weights rows).find? e.1 = some e.2 := SortedMap.mem_entries_iff.1 (List.mem_mergeSort.1 he)
    have ho : Occurs rows e.1 := (mem_ranking h).1 (List.mem_map_of_mem he)
    rw [find?_weights h ho] at hf
    exact (Option.some.inj hf).symm
  have hsorted := List.pairwise_mergeSort precedes_trans precedes_total (weights rows).entries
  have hnodup := List.pairwise_map.1 (nodup_ranking rows)
  refine List.pairwise_map.2 ((hsorted.and hnodup).imp_of_mem ?_)
  rintro ⟨a, v⟩ ⟨b, w⟩ ha hb ⟨hab, hne⟩
  have hv : v = ⟨weight rows a, false⟩ := hentry _ ha
  have hw : w = ⟨weight rows b, false⟩ := hentry _ hb
  subst hv hw
  exact outranks_of_precedes hne hab

/-- A ranked list of all ids that occur, each once, begins with the best of them. -/
theorem best_take {ids : List EmployeeId} (hmem : ∀ id, id ∈ ids ↔ Occurs rows id) (hnodup : ids.Nodup)
    (hsorted : ids.Pairwise (Outranks rows)) (limit : Nat) : Best rows limit (ids.take limit) where
  occurs id hid := (hmem id).1 (List.mem_of_mem_take hid)
  nodup := hnodup.sublist (List.take_sublist _ _)
  ordered := hsorted.sublist (List.take_sublist _ _)
  length_le := List.length_take_le _ _
  omitted id ho hid := by
    have hall : id ∈ ids.take limit ++ ids.drop limit := (List.take_append_drop _ _).symm ▸ (hmem id).2 ho
    have hdrop : id ∈ ids.drop limit := (List.mem_append.1 hall).resolve_left hid
    constructor
    · have hpos : 0 < (ids.drop limit).length := List.length_pos_of_mem hdrop
      rw [List.length_drop] at hpos
      rw [List.length_take]
      omega
    · intro c hc
      rw [← List.take_append_drop limit ids] at hsorted
      exact (List.pairwise_append.1 hsorted).2.2 c hc id hdrop

theorem best_rank (h : ∀ row ∈ rows, Binary64.NonNegative row.score) (limit : Nat) :
    Best rows limit (rank rows limit) :=
  rank_eq_take rows limit ▸ best_take (fun _ => mem_ranking h) (nodup_ranking rows) (pairwise_ranking h) limit

/-! ## The rows that resemble a token -/

theorem nonNegative_similar (index : Index) (tokens : List String) (threshold : Float) :
    ∀ row ∈ similar index tokens threshold, Binary64.NonNegative row.score := by
  intro row hrow
  obtain ⟨r, -, token, -, -, rfl⟩ := mem_similar.1 hrow
  exact Text.nonNegative_similarity _ _

/-- What the row makes of a query. -/
def scored (tokens : List String) (threshold : Float) (row : Row) : List ScoredRow :=
  (tokens.filter fun token => Text.similarity token row.key > threshold).map fun token =>
    ⟨row.key, row.ids, Text.similarity token row.key⟩

theorem similar_eq_flatMap (index : Index) (tokens : List String) (threshold : Float) :
    similar index tokens threshold = index.toRows.flatMap (scored tokens threshold) := by
  refine congrArg (List.flatMap · _) (funext fun row => ?_)
  induction tokens with
  | nil => rfl
  | cons token tokens ih =>
    rw [List.filterMap_cons, ih]
    by_cases h : Text.similarity token row.key > threshold <;> simp [scored, h]

theorem key_of_mem_scored {tokens : List String} {threshold : Float} {row : Row} {scoredRow : ScoredRow}
    (h : scoredRow ∈ scored tokens threshold row) : scoredRow.key = row.key := by
  obtain ⟨token, -, rfl⟩ := List.mem_map.1 h
  rfl

theorem filter_scored (tokens : List String) (threshold : Float) (row : Row) (key : String) :
    (scored tokens threshold row).filter (·.key = key) =
      if row.key = key then scored tokens threshold row else [] := by
  split
  · next h =>
    refine List.filter_eq_self.2 fun a ha => ?_
    simp [key_of_mem_scored ha, h]
  · next h =>
    refine List.filter_eq_nil_iff.2 fun a ha => ?_
    simp [key_of_mem_scored ha, h]

/-- A key has one entry at most, so its rows all come from there. -/
theorem filter_flatMap_scored (tokens : List String) (threshold : Float) (key : String)
    {entries : List (String × List EmployeeId)} (h : entries.Pairwise fun a b => compare a.1 b.1 = .lt) :
    ((entries.map fun e => (⟨e.1, e.2⟩ : Row)).flatMap (scored tokens threshold)).filter (·.key = key) =
      ((SortedMap.lookup key entries).map fun ids => scored tokens threshold ⟨key, ids⟩).getD [] := by
  induction entries with
  | nil => rfl
  | cons e entries ih =>
    obtain ⟨hlt, hrest⟩ := List.pairwise_cons.1 h
    rw [List.map_cons, List.flatMap_cons, List.filter_append, filter_scored, ih hrest]
    by_cases hk : e.1 = key
    · subst hk
      rw [SortedMap.lookup_of_lt hlt]
      simp [SortedMap.lookup]
    · have hne : key ≠ e.1 := fun heq => hk heq.symm
      simp [SortedMap.lookup, hk, hne]

theorem matches_similar (index : Index) (tokens : List String) (threshold : Float) :
    Matches index tokens threshold (similar index tokens threshold) where
  ascending := by
    rw [similar_eq_flatMap]
    refine List.pairwise_flatMap.2 ⟨fun row _ => ?_, ?_⟩
    · refine List.pairwise_map.2 (List.pairwise_of_forall fun _ _ => ?_)
      simp [Std.ReflCmp.compare_self]
    · refine List.pairwise_map.2 (index.rows.ascending.imp fun hlt a ha b hb => ?_)
      rw [key_of_mem_scored ha, key_of_mem_scored hb, hlt]
      rfl
  rows_at key := by
    rw [similar_eq_flatMap]
    refine (filter_flatMap_scored tokens threshold key index.rows.ascending).trans ?_
    unfold Index.find? SortedMap.find?
    cases SortedMap.lookup key index.rows.entries <;> rfl

/-! ## Ranked search -/

/-- **Ranked search.** The rows that resemble a token of the query and the best ids among them are determined, and a
search shows those of the best ids that are stored, where there are at most as many best ones as are asked for and may be
returned. A limit of zero is refused, whatever the stores hold and however they fail. -/
theorem ranked_best (s : Stores) (settings : Settings) (query : String) :
    (∀ limit, limit ≠ 0 → ∃ rows chosen,
      (∀ other, Matches s.index (Key.tokens query) settings.threshold other ↔ other = rows) ∧
      (∀ other, Best rows (min limit settings.maxLimit) other ↔ other = chosen) ∧
      s.run (ranked settings query limit) = (.ok (s.staff.summaries chosen), s)) ∧
    ∀ (a : Access) (admitted : Bool),
      a.advance admitted (ranked settings query 0) = (.ended (.error .zeroLimit), a) := by
  constructor
  · intro limit hl
    have hrows := matches_similar s.index (Key.tokens query) settings.threshold
    have hbest := best_rank (nonNegative_similar s.index (Key.tokens query) settings.threshold)
      (min limit settings.maxLimit)
    exact ⟨_, _, fun other => ⟨(·.unique hrows), (· ▸ hrows)⟩, fun other => ⟨(·.unique hbest), (· ▸ hbest)⟩,
      run_ranked s settings query hl⟩
  · intro a admitted
    rfl

/-- Two namesakes, one of them filed twice under her name, and a third one who is no longer stored. -/
def namesakes : Stores where
  index := (((Index.empty.append "e2" ["anna"]).append "e1" ["anna", "anna"]).append "e0" ["anna"]).append "e3" ["hanna"]
  staff := (Staff.empty.insert { id := "e1", name := "Anna", surname := "Orlova" }).insert
    { id := "e2", name := "ANNA", surname := "Serova" }

theorem rank_namesakes : rank (similar namesakes.index (Key.tokens "Anna anna") 0.4) 2 = ["e0", "e1"] := by
  -- All weights are equal, so the entries are ranked as they are.
  rw [rank, List.mergeSort_of_pairwise (by decide +kernel)]
  decide +kernel

theorem ranked_best_namesakes : ∃ rows, Best rows 2 ["e0", "e1"] ∧ rows.map (·.key) = ["anna", "anna"] ∧
    namesakes.run (ranked {} "Anna anna" 2) = (.ok [⟨"e1", "Anna", "Orlova", none, none⟩], namesakes) := by
  obtain ⟨rows, chosen, hrows, hbest, hrun⟩ := (ranked_best namesakes {} "Anna anna").1 2 (by decide)
  obtain rfl : similar namesakes.index (Key.tokens "Anna anna") 0.4 = rows := (hrows _).1 (matches_similar ..)
  have hchosen := best_rank (nonNegative_similar namesakes.index (Key.tokens "Anna anna") 0.4) 2
  rw [rank_namesakes] at hchosen
  obtain rfl : ["e0", "e1"] = chosen := (hbest _).1 hchosen
  exact ⟨_, hchosen, by decide +kernel, hrun.trans rfl⟩

end StaffIndex.Search
