import StaffIndex.Proofs.Binary64.RoundedSums
import StaffIndex.Proofs.Search.Ranked

/-!
# Rankings of the same rows in another order

Scores are added up one by one, and each sum is rounded. So the weight of an id may depend on the order of the rows.

- Up to two scores come to the same in any order, and so do any number of scores with sums that need no rounding
  (`weight_eq_of_perm`). Three scores may not, and then the ranking may change (`not_rank_of_perm`).
- A weight is no further from the exact sum than all its roundings can take it (`weight_bounds`). So an id that clearly
  outweighs another one comes before it in any order (`outranks_of_clearlyOutweighs`).
- Two orders rank the ids alike just if they compare them alike (`rank_eq_iff`). They can only disagree about pairs of ids
  that rounding can decide between (`rank_of_perm`).
-/

namespace StaffIndex.Search

open Binary64

/-- The scores that are added up for an id. -/
def scores (rows : List ScoredRow) (id : EmployeeId) : List Float := (rows.filter (·.ids.contains id)).map (·.score)

/-- Their sum without rounding. -/
def exactWeight (rows : List ScoredRow) (id : EmployeeId) : ℚ := ((scores rows id).map value).sum

/-- The exact weight of the first id is the larger one, even if all roundings of its sum went down and all those of the
other one went up. -/
def ClearlyOutweighs (rows : List ScoredRow) (a b : EmployeeId) : Prop :=
  (1 + roundoff) ^ ((scores rows b).length - 1) * exactWeight rows b <
    min ((1 - roundoff) ^ ((scores rows a).length - 1) * exactWeight rows a) (2 ^ 1024)

instance (rows : List ScoredRow) (a b : EmployeeId) : Decidable (ClearlyOutweighs rows a b) :=
  inferInstanceAs (Decidable (_ < _))

instance (rows : List ScoredRow) (a b : EmployeeId) : Decidable (Outranks rows a b) :=
  inferInstanceAs (Decidable (_ ∨ _))

variable {rows other : List ScoredRow} {a b id : EmployeeId}

theorem scores_perm (h : rows.Perm other) (id : EmployeeId) : (scores rows id).Perm (scores other id) :=
  (h.filter _).map _

theorem nonNegative_scores (h : ∀ row ∈ rows, NonNegative row.score) : ∀ x ∈ scores rows id, NonNegative x := by
  intro x hx
  obtain ⟨row, hrow, rfl⟩ := List.mem_map.1 hx
  exact h row (List.mem_filter.1 hrow).1

theorem weight_eq_foldl (rows : List ScoredRow) (id : EmployeeId) :
    weight rows id = (scores rows id).foldl (· + ·) 0.0 := List.foldl_map.symm

theorem occurs_of_perm (h : rows.Perm other) : Occurs rows id ↔ Occurs other id := by
  simp only [Occurs, h.mem_iff]

/-! ## Sums that do not depend on the order -/

/-- The sum of the numbers is rounded once at most, or not at all. -/
def OrderFree (l : List Float) : Prop := l.length ≤ 2 ∨ AddExactly l

theorem OrderFree.of_perm {l l' : List Float} (h : OrderFree l) (hperm : l.Perm l') : OrderFree l' :=
  h.imp (hperm.length_eq ▸ ·) (·.of_perm hperm)

theorem foldl_add_eq_of_length_le {l l' : List Float} (h : l.Perm l') (hl : ∀ x ∈ l, NonNegative x)
    (hlen : l.length ≤ 2) : l.foldl (· + ·) 0.0 = l'.foldl (· + ·) 0.0 := by
  match l, h, hl, hlen with
  | [], h, _, _ => rw [h.nil_eq]
  | [x], h, _, _ => rw [List.singleton_perm.1 h]
  | [x, y], h, hl, _ =>
    rcases List.pair_perm.1 h with rfl | rfl
    · rfl
    · have hx : NonNegative x := hl x (by simp)
      have hy : NonNegative y := hl y (by simp)
      change 0.0 + x + y = 0.0 + y + x
      rw [hx.zero_add, hy.zero_add, hx.add_comm hy]

theorem weight_eq_of_perm (h : ∀ row ∈ rows, NonNegative row.score) (hperm : (scores rows a).Perm (scores other b))
    (hfree : OrderFree (scores rows a)) : weight rows a = weight other b := by
  rw [weight_eq_foldl, weight_eq_foldl]
  rcases hfree with hlen | hexact
  · exact foldl_add_eq_of_length_le hperm (nonNegative_scores h) hlen
  · exact hexact.foldl_add_eq hperm (nonNegative_scores h)

/-! ## Clear differences -/

theorem nonNegative_weight (h : ∀ row ∈ rows, NonNegative row.score) (id : EmployeeId) :
    NonNegative (weight rows id) :=
  weight_eq_foldl rows id ▸ nonNegative_foldl_add .zero (nonNegative_scores h)

/-- The first score is added to nothing, so there is one rounding less than there are scores. -/
theorem weight_bounds (h : ∀ row ∈ rows, NonNegative row.score) (id : EmployeeId) :
    value (weight rows id) ≤ (1 + roundoff) ^ ((scores rows id).length - 1) * exactWeight rows id ∧
      ((1 - roundoff) ^ ((scores rows id).length - 1) * exactWeight rows id ≤ value (weight rows id) ∨
        value (weight rows id) = 2 ^ 1024) := by
  have hscores : ∀ x ∈ scores rows id, NonNegative x := nonNegative_scores h
  rw [weight_eq_foldl, exactWeight]
  generalize scores rows id = l at hscores
  cases l with
  | nil =>
    have hzero : value 0.0 = 0 := by
      rw [value]
      exact zero_mul _
    simp [hzero]
  | cons x l =>
    rw [List.forall_mem_cons] at hscores
    rw [List.foldl_cons, hscores.1.zero_add, List.length_cons, Nat.add_sub_cancel, List.map_cons, List.sum_cons]
    exact ⟨value_foldl_add_le hscores.1 hscores.2, le_value_foldl_add hscores.1 hscores.2⟩

/-- Weights are placed by their values. -/
theorem place_lt_place_iff {x y : Float} (hx : NonNegative x) (hy : NonNegative y) :
    place x < place y ↔ value x < value y := by
  have hpositive : ∀ {z : Float}, NonNegative z → place z = z.toBits.toNat := by
    intro z hz
    have hlt := hz.units_eq.1
    rw [place, if_pos (by omega)]
  rw [hpositive hx, hpositive hy, hx.value_lt_iff hy, Int.ofNat_lt]

/-- No order of the rows turns a clear difference round. -/
theorem outranks_of_clearlyOutweighs (h : ∀ row ∈ rows, NonNegative row.score) (hclear : ClearlyOutweighs rows a b) :
    Outranks rows a b := by
  obtain ⟨hsum, hbound⟩ := lt_min_iff.1 hclear
  have hb := (weight_bounds h b).1
  refine .inl ((place_lt_place_iff (nonNegative_weight h b) (nonNegative_weight h a)).2 ?_)
  rcases (weight_bounds h a).2 with ha | hinf
  · exact (hb.trans_lt hsum).trans_le ha
  · rw [hinf]
    exact hb.trans_lt hbound

theorem ClearlyOutweighs.of_perm (h : ClearlyOutweighs rows a b) (hperm : rows.Perm other) :
    ClearlyOutweighs other a b := by
  have hexact : ∀ id, exactWeight other id = exactWeight rows id := fun id =>
    ((scores_perm hperm id).map value).sum_eq.symm
  rwa [ClearlyOutweighs, hexact, hexact, ← (scores_perm hperm a).length_eq, ← (scores_perm hperm b).length_eq]

/-! ## Equal rankings -/

theorem nonNegative_of_perm (h : ∀ row ∈ rows, NonNegative row.score) (hperm : rows.Perm other) :
    ∀ row ∈ other, NonNegative row.score := fun row hrow => h row (hperm.mem_iff.2 hrow)

theorem ranking_eq_of_rank_eq (h : ∀ limit, rank rows limit = rank other limit) : ranking rows = ranking other := by
  have hall := h ((ranking rows).length + (ranking other).length)
  rwa [rank_eq_take, rank_eq_take, List.take_of_length_le (by omega), List.take_of_length_le (by omega)] at hall

theorem rank_eq_take_of_pairwise (h : ∀ row ∈ rows, NonNegative row.score) {ids : List EmployeeId}
    (hmem : ∀ id, Occurs rows id ↔ id ∈ ids) (hsorted : ids.Pairwise (Outranks rows)) (limit : Nat) :
    rank rows limit = ids.take limit := by
  rw [rank_eq_take, (pairwise_ranking h).eq_of_mem_iff hsorted fun id => (mem_ranking h).trans (hmem id)]

/-- Of two ids in a list sorted both ways, one comes first both ways. -/
theorem outranks_of_pairwise {ids : List EmployeeId} (h : ids.Pairwise (Outranks rows))
    (h' : ids.Pairwise (Outranks other)) (ha : a ∈ ids) (hb : b ∈ ids) (hab : Outranks rows a b) :
    Outranks other a b := by
  have hne : a ≠ b := by
    rintro rfl
    exact hab.asymm hab
  let R : EmployeeId → EmployeeId → Prop := fun x y =>
    (Outranks rows x y ∧ Outranks other x y) ∨ (Outranks rows y x ∧ Outranks other y x)
  have hsymm : Std.Symm R := ⟨fun _ _ => Or.symm⟩
  have hboth : ids.Pairwise R := (h.and h').imp .inl
  rcases hboth.forall ha hb hne with hfirst | hlast
  · exact hfirst.2
  · exact absurd hlast.1 hab.asymm

/-- Two orders rank the ids alike just if they compare them alike. -/
theorem rank_eq_iff (h : ∀ row ∈ rows, NonNegative row.score) (hperm : rows.Perm other) :
    (∀ limit, rank rows limit = rank other limit) ↔
      ∀ a b, Occurs rows a → Occurs rows b → (Outranks rows a b ↔ Outranks other a b) := by
  have h' := nonNegative_of_perm h hperm
  have hsorted := pairwise_ranking h
  have hsorted' := pairwise_ranking h'
  constructor
  · intro hrank a b ha hb
    rw [← ranking_eq_of_rank_eq hrank] at hsorted'
    rw [← mem_ranking h] at ha hb
    exact ⟨outranks_of_pairwise hsorted hsorted' ha hb, outranks_of_pairwise hsorted' hsorted ha hb⟩
  · intro hcompare limit
    have hmem : ∀ id, Occurs rows id ↔ id ∈ ranking other := fun id =>
      (occurs_of_perm hperm).trans (mem_ranking h').symm
    have hsame : (ranking other).Pairwise (Outranks rows) := hsorted'.imp_of_mem fun ha hb =>
      (hcompare _ _ ((hmem _).2 ha) ((hmem _).2 hb)).2
    rw [rank_eq_take_of_pairwise h hmem hsame, rank_eq_take]

/-! ## Pairs of ids -/

/-- The two ids occur in the same rows. -/
def Together (rows : List ScoredRow) (a b : EmployeeId) : Prop :=
  ∀ row ∈ rows, row.ids.contains a = row.ids.contains b

theorem Together.of_perm (h : Together rows a b) (hperm : rows.Perm other) : Together other a b :=
  fun row hrow => h row (hperm.mem_iff.2 hrow)

theorem Together.weight_eq (h : Together rows a b) : weight rows a = weight rows b := by
  rw [weight, weight, List.filter_congr h]

/-- The two ids have the same weight in any order of the rows. -/
def Ties (rows : List ScoredRow) (a b : EmployeeId) : Prop :=
  Together rows a b ∨ (scores rows a).Perm (scores rows b) ∧ OrderFree (scores rows a)

theorem Ties.of_perm (h : Ties rows a b) (hperm : rows.Perm other) : Ties other a b := by
  refine h.imp (·.of_perm hperm) fun ⟨hscores, hfree⟩ => ⟨?_, hfree.of_perm (scores_perm hperm a)⟩
  exact ((scores_perm hperm a).symm.trans hscores).trans (scores_perm hperm b)

theorem Ties.weight_eq (hties : Ties rows a b) (h : ∀ row ∈ rows, NonNegative row.score) :
    weight rows a = weight rows b := by
  rcases hties with htogether | ⟨hscores, hfree⟩
  · exact htogether.weight_eq
  · exact weight_eq_of_perm h hscores hfree

theorem outranks_iff_of_weight_eq (h : weight rows a = weight rows b) : Outranks rows a b ↔ compare a b = .lt := by
  simp [Outranks, h]

/-- Rounding cannot decide which of the two ids comes first. -/
inductive Settled (rows : List ScoredRow) (a b : EmployeeId) : Prop
  | together (h : Together rows a b)
  | orderFree (ha : OrderFree (scores rows a)) (hb : OrderFree (scores rows b))
  | heavier (h : ClearlyOutweighs rows a b)
  | lighter (h : ClearlyOutweighs rows b a)

theorem Settled.outranks_iff (hsettled : Settled rows a b) (h : ∀ row ∈ rows, NonNegative row.score)
    (hperm : rows.Perm other) : Outranks rows a b ↔ Outranks other a b := by
  have h' := nonNegative_of_perm h hperm
  cases hsettled with
  | together ht =>
    rw [outranks_iff_of_weight_eq ht.weight_eq, outranks_iff_of_weight_eq (ht.of_perm hperm).weight_eq]
  | orderFree ha hb =>
    rw [Outranks, Outranks, weight_eq_of_perm h (scores_perm hperm a) ha, weight_eq_of_perm h (scores_perm hperm b) hb]
  | heavier hc =>
    exact iff_of_true (outranks_of_clearlyOutweighs h hc) (outranks_of_clearlyOutweighs h' (hc.of_perm hperm))
  | lighter hc =>
    exact iff_of_false (outranks_of_clearlyOutweighs h hc).asymm
      (outranks_of_clearlyOutweighs h' (hc.of_perm hperm)).asymm

/-! ## Main statement -/

/-- **Order of the rows.** Two orders of the rows rank the same ids, and each ranks them by the sums that it comes to.
Both put an id that clearly outweighs another one before it, and of two that tie the smaller one first. Two ids that
rounding cannot decide between come in the same order in both. So the rankings differ only if they put two other ids the
other way round. -/
theorem rank_of_perm (hperm : rows.Perm other) (hpos : ∀ row ∈ rows, 0.0 < row.score) :
    (∀ limit, Best rows limit (rank rows limit) ∧ Best other limit (rank other limit)) ∧
      (∀ a b, ClearlyOutweighs rows a b → Outranks rows a b ∧ Outranks other a b) ∧
      (∀ a b, Ties rows a b → compare a b = .lt → Outranks rows a b ∧ Outranks other a b) ∧
      (∀ a b, Settled rows a b → (Outranks rows a b ↔ Outranks other a b)) ∧
      ((∀ limit, rank rows limit = rank other limit) ↔
        ∀ a b, Occurs rows a → Occurs rows b → ¬ Settled rows a b → (Outranks rows a b ↔ Outranks other a b)) := by
  have h : ∀ row ∈ rows, NonNegative row.score := fun row hrow => .of_pos (hpos row hrow)
  have h' := nonNegative_of_perm h hperm
  refine ⟨fun limit => ⟨best_rank h limit, best_rank h' limit⟩, fun a b hclear => ?_, fun a b hties hab => ?_,
    fun a b hsettled => hsettled.outranks_iff h hperm, ?_⟩
  · exact ⟨outranks_of_clearlyOutweighs h hclear, outranks_of_clearlyOutweighs h' (hclear.of_perm hperm)⟩
  · exact ⟨(outranks_iff_of_weight_eq (hties.weight_eq h)).2 hab,
      (outranks_iff_of_weight_eq ((hties.of_perm hperm).weight_eq h')).2 hab⟩
  · rw [rank_eq_iff h hperm]
    refine ⟨fun hcompare a b ha hb _ => hcompare a b ha hb, fun hcompare a b ha hb => ?_⟩
    by_cases hsettled : Settled rows a b
    · exact hsettled.outranks_iff h hperm
    · exact hcompare a b ha hb hsettled

/-- Three ids in four rows. Only the first one has more than two scores, and it clearly outweighs the others. -/
def fourRows : List ScoredRow :=
  [⟨"ann", ["e1", "e2"], 0.5⟩, ⟨"anna", ["e1", "e3"], 1.0⟩, ⟨"anne", ["e2", "e3"], 0.6⟩, ⟨"hanna", ["e1"], 0.4⟩]

theorem settled_fourRows : ∀ a ∈ ["e1", "e2", "e3"], ∀ b ∈ ["e1", "e2", "e3"], Settled fourRows a b := by
  have hcases : ∀ a ∈ ["e1", "e2", "e3"], ∀ b ∈ ["e1", "e2", "e3"], a = b ∨
      ((scores fourRows a).length ≤ 2 ∧ (scores fourRows b).length ≤ 2) ∨
      ClearlyOutweighs fourRows a b ∨ ClearlyOutweighs fourRows b a := by decide +kernel
  intro a ha b hb
  rcases hcases a ha b hb with rfl | ⟨hfew, hfew'⟩ | hheavier | hlighter
  · exact .together fun _ _ => rfl
  · exact .orderFree (.inl hfew) (.inl hfew')
  · exact .heavier hheavier
  · exact .lighter hlighter

theorem rank_of_perm_fourRows : fourRows.Perm fourRows.reverse ∧ (∀ row ∈ fourRows, 0.0 < row.score) ∧
    ∀ limit, rank fourRows limit = rank fourRows.reverse limit := by
  have hperm : fourRows.Perm fourRows.reverse := (List.reverse_perm _).symm
  have hpos : ∀ row ∈ fourRows, 0.0 < row.score := by decide +kernel
  have hids : ∀ {id}, Occurs fourRows id → id ∈ ["e1", "e2", "e3"] := by
    have hrows : ∀ row ∈ fourRows, row.ids ⊆ ["e1", "e2", "e3"] := by decide +kernel
    rintro id ⟨row, hrow, hid⟩
    exact hrows row hrow hid
  exact ⟨hperm, hpos, (rank_of_perm hperm hpos).2.2.2.2.2 fun a b ha hb hopen =>
    absurd (settled_fourRows a (hids ha) b (hids hb)) hopen⟩

/-- Both ids have the scores 0.1, 0.2 and 0.3. The first one has the largest first, and comes to 0.6. The other one has
it last, and comes to 0.6000000000000001. -/
def crossed : List ScoredRow :=
  [⟨"k1", ["a"], 0.3⟩, ⟨"k2", ["b"], 0.1⟩, ⟨"k3", ["b"], 0.2⟩, ⟨"k4", ["a"], 0.2⟩, ⟨"k5", ["b"], 0.3⟩, ⟨"k6", ["a"], 0.1⟩]

theorem pos_crossed : ∀ row ∈ crossed, 0.0 < row.score ∧ row.score.isFinite := by decide +kernel

theorem scores_crossed : (scores crossed "a").Perm (scores crossed "b") := by decide +kernel

theorem occurs_crossed {id : EmployeeId} : Occurs crossed id ↔ id ∈ ["a", "b"] := by
  have hrows : ∀ row ∈ crossed, row.ids ⊆ ["a", "b"] := by decide +kernel
  constructor
  · rintro ⟨row, hrow, hid⟩
    exact hrows row hrow hid
  · have hall : ∀ id ∈ ["a", "b"], Occurs crossed id := by
      unfold Occurs
      decide +kernel
    exact hall id

/-- **Three scores.** Where rounding can decide, the ranking may depend on the order of the rows, and two ids with the
same scores may come in the order of what their sums are rounded to. -/
theorem not_rank_of_perm :
    (¬ ∀ (rows other : List ScoredRow) (limit : Nat), rows.Perm other →
      (∀ row ∈ rows, 0.0 < row.score ∧ row.score.isFinite) → rank rows limit = rank other limit) ∧
    ¬ ∀ (rows : List ScoredRow) (a b : EmployeeId), (∀ row ∈ rows, 0.0 < row.score ∧ row.score.isFinite) →
      Occurs rows a → Occurs rows b → (scores rows a).Perm (scores rows b) → compare a b = .lt →
        Outranks rows a b := by
  have hperm : crossed.Perm crossed.reverse := (List.reverse_perm _).symm
  have h : ∀ row ∈ crossed, NonNegative row.score := fun row hrow => .of_pos (pos_crossed row hrow).1
  constructor
  · intro hall
    have hswap : ∀ id, Occurs crossed id ↔ id ∈ ["b", "a"] := fun id => occurs_crossed.trans (List.Perm.swap ..).mem_iff
    have hrank : rank crossed 2 = ["b", "a"] := rank_eq_take_of_pairwise h hswap (by decide +kernel) 2
    have hrank' : rank crossed.reverse 2 = ["a", "b"] := rank_eq_take_of_pairwise (nonNegative_of_perm h hperm)
      (fun _ => (occurs_of_perm hperm).symm.trans occurs_crossed) (by decide +kernel) 2
    have heq := hall crossed crossed.reverse 2 hperm pos_crossed
    rw [hrank, hrank'] at heq
    exact absurd heq (by decide)
  · intro hall
    have hab : Outranks crossed "a" "b" :=
      hall crossed "a" "b" pos_crossed (occurs_crossed.2 (by decide)) (occurs_crossed.2 (by decide)) scores_crossed
        (by decide)
    have hnot : ¬ Outranks crossed "a" "b" := by decide +kernel
    exact hnot hab

end StaffIndex.Search
