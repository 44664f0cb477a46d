import StaffIndex.Proofs.Binary64.Monotone
import StaffIndex.Proofs.Search.RowOrder

/-!
# Ids that are in every row of another one

An id that is in every row that has another id is ranked before it, unless both have the same weight and the other one is
smaller (`rank_of_covers`).

- The scores of the other id are some of its own, in the same order (`Covers.scores_sublist`). Sums are rounded, but a sum
  of more numbers is no smaller, so it weighs at least as much (`Covers.place_le`).
- It may weigh just as much although it is in more rows, if their scores are lost in the rounding.
-/

namespace StaffIndex.Search

open Binary64

variable {rows : List ScoredRow} {a b : EmployeeId}

/-- Every row that has the second id has the first one too. -/
def Covers (rows : List ScoredRow) (a b : EmployeeId) : Prop := ∀ row ∈ rows, b ∈ row.ids → a ∈ row.ids

instance (rows : List ScoredRow) (a b : EmployeeId) : Decidable (Covers rows a b) :=
  inferInstanceAs (Decidable (∀ row ∈ rows, _))

/-- The ids have the same weight, and the second one is smaller. -/
def TiedBehind (rows : List ScoredRow) (a b : EmployeeId) : Prop :=
  weight rows a = weight rows b ∧ compare b a = .lt

/-! ## Weights -/

namespace Covers

theorem occurs (hcovers : Covers rows a b) (hb : Occurs rows b) : Occurs rows a := by
  obtain ⟨row, hrow, hid⟩ := hb
  exact ⟨row, hrow, hcovers row hrow hid⟩

theorem scores_sublist (hcovers : Covers rows a b) : (scores rows b).Sublist (scores rows a) := by
  have hfilter : (rows.filter (·.ids.contains b)) = (rows.filter (·.ids.contains a)).filter (·.ids.contains b) := by
    rw [List.filter_filter]
    refine List.filter_congr fun row hrow => ?_
    have hrows := hcovers row hrow
    grind
  rw [scores, hfilter]
  exact List.filter_sublist.map _

/-- Rounding or not, more scores come to no less. -/
theorem place_le (hcovers : Covers rows a b) (h : ∀ row ∈ rows, NonNegative row.score) :
    place (weight rows b) ≤ place (weight rows a) := by
  have hvalue : value (weight rows b) ≤ value (weight rows a) := by
    rw [weight_eq_foldl, weight_eq_foldl]
    exact value_foldl_add_le_of_sublist hcovers.scores_sublist (nonNegative_scores h) .zero .zero le_rfl
  rw [← Int.not_lt, place_lt_place_iff (nonNegative_weight h a) (nonNegative_weight h b)]
  exact not_lt.2 hvalue

end Covers

theorem eq_of_place_eq {x y : Float} (hx : NonNegative x) (hy : NonNegative y) (h : place x = place y) : x = y := by
  have hlt := place_lt_place_iff hx hy
  have hgt := place_lt_place_iff hy hx
  refine hx.eq_of_units_eq hy (Nat.le_antisymm (value_le_iff.1 ?_) (value_le_iff.1 ?_))
  · exact not_lt.1 fun hv => absurd (hgt.2 hv) (by omega)
  · exact not_lt.1 fun hv => absurd (hlt.2 hv) (by omega)

/-- The covering id comes first but for ties. -/
theorem Covers.outranks_iff (hcovers : Covers rows a b) (h : ∀ row ∈ rows, NonNegative row.score) (hne : a ≠ b) :
    Outranks rows a b ↔ ¬ TiedBehind rows a b := by
  have hle := hcovers.place_le h
  have hequal : place (weight rows a) = place (weight rows b) ↔ weight rows a = weight rows b :=
    ⟨eq_of_place_eq (nonNegative_weight h a) (nonNegative_weight h b), fun heq => by rw [heq]⟩
  have hids : compare a b = .lt ↔ ¬ compare b a = .lt := by
    rcases hc : compare a b with _ | _ | _
    · simp [Std.OrientedCmp.gt_of_lt hc]
    · exact absurd (Std.LawfulEqOrd.compare_eq_iff_eq.1 hc) hne
    · simp [Std.OrientedCmp.gt_iff_lt.1 hc]
  rw [Outranks, TiedBehind, ← hequal, hids]
  grind

/-! ## Places in the ranking -/

/-- In a sorted list, an id has its place before another one if it comes first in the order. -/
theorem idxOf_lt_idxOf_iff {R : EmployeeId → EmployeeId → Prop} {ids : List EmployeeId} (h : ids.Pairwise R)
    (hasymm : ∀ {x y}, R x y → ¬ R y x) (ha : a ∈ ids) (hb : b ∈ ids) : ids.idxOf a < ids.idxOf b ↔ R a b := by
  have hordered : ∀ {x y}, x ∈ ids → y ∈ ids → ids.idxOf x < ids.idxOf y → R x y := by
    intro x y hx hy hlt
    have hget := List.pairwise_iff_getElem.1 h _ _ (List.idxOf_lt_length_iff.2 hx) (List.idxOf_lt_length_iff.2 hy) hlt
    rwa [List.getElem_idxOf, List.getElem_idxOf] at hget
  refine ⟨hordered ha hb, fun hab => ?_⟩
  rcases Nat.lt_trichotomy (ids.idxOf a) (ids.idxOf b) with hlt | heq | hgt
  · exact hlt
  · rw [(List.idxOf_inj ha).1 heq] at hab
    exact absurd hab (hasymm hab)
  · exact absurd hab (hasymm (hordered hb ha hgt))

/-- Every limit that has room for all ids that occur gives the whole ranking. -/
theorem rank_of_length_le {limit : Nat} (hlimit : (rows.flatMap (·.ids)).eraseDups.length ≤ limit) :
    rank rows limit = ranking rows := by
  have hsub : ranking rows ⊆ (rows.flatMap (·.ids)).eraseDups := fun id hid =>
    List.mem_eraseDups.2 (List.mem_flatMap.2 (occurs_of_mem_ranking hid))
  rw [rank_eq_take, List.take_of_length_le (((nodup_ranking rows).length_le_of_subset hsub).trans hlimit)]

/-! ## Main statement -/

/-- **Covering ids.** Let all scores be positive, and let every row that has the second id have the first one too. If
there is room for all ids that occur, both are returned, and the first one comes before the second one just if they are
not of equal weight with the second one the smaller id. With less room, the second one is returned without the first one
only if they are. -/
theorem rank_of_covers (hpos : ∀ row ∈ rows, 0.0 < row.score) (hne : a ≠ b) (hb : Occurs rows b)
    (hcovers : Covers rows a b) :
    (∀ limit, (rows.flatMap (·.ids)).eraseDups.length ≤ limit →
      a ∈ rank rows limit ∧ b ∈ rank rows limit ∧
        ((rank rows limit).idxOf a < (rank rows limit).idxOf b ↔ ¬ TiedBehind rows a b)) ∧
      ∀ limit, b ∈ rank rows limit → a ∈ rank rows limit ∨ TiedBehind rows a b := by
  have h : ∀ row ∈ rows, NonNegative row.score := fun row hrow => .of_pos (hpos row hrow)
  have houtranks := hcovers.outranks_iff h hne
  constructor
  · intro limit hlimit
    have ha' : a ∈ ranking rows := (mem_ranking h).2 (hcovers.occurs hb)
    have hb' : b ∈ ranking rows := (mem_ranking h).2 hb
    rw [rank_of_length_le hlimit]
    exact ⟨ha', hb', (idxOf_lt_idxOf_iff (pairwise_ranking h) Outranks.asymm ha' hb').trans houtranks⟩
  · intro limit hreturned
    by_cases ha' : a ∈ rank rows limit
    · exact .inl ha'
    · have hover : Outranks rows b a := ((best_rank h limit).omitted a (hcovers.occurs hb) ha').2 b hreturned
      exact .inr (Classical.byContradiction fun hnot => (houtranks.2 hnot).asymm hover)

/-- The second row has the first id too, but its score is too small to make the first id any heavier. -/
def absorbed : List ScoredRow := [⟨"ann", ["e2", "e1", "e2"], 1.0⟩, ⟨"hanna", ["e3", "e2"], 1e-17⟩]

theorem rank_of_covers_absorbed : (∀ row ∈ absorbed, 0.0 < row.score) ∧ Covers absorbed "e2" "e1" ∧
    Covers absorbed "e2" "e3" ∧ TiedBehind absorbed "e2" "e1" ∧
    ¬ (rank absorbed 3).idxOf "e2" < (rank absorbed 3).idxOf "e1" ∧
    (rank absorbed 3).idxOf "e2" < (rank absorbed 3).idxOf "e3" ∧
    ∀ limit, "e3" ∈ rank absorbed limit → "e2" ∈ rank absorbed limit := by
  have hpos : ∀ row ∈ absorbed, 0.0 < row.score := by decide +kernel
  have hfirst : Covers absorbed "e2" "e1" := by decide +kernel
  have hthird : Covers absorbed "e2" "e3" := by decide +kernel
  have htied : TiedBehind absorbed "e2" "e1" := ⟨by decide +kernel, by decide +kernel⟩
  have hroom : (absorbed.flatMap (·.ids)).eraseDups.length ≤ 3 := by decide +kernel
  have hnot : ¬ TiedBehind absorbed "e2" "e3" := fun hties => absurd hties.2 (by decide +kernel)
  obtain ⟨hall, -⟩ := rank_of_covers hpos (by decide) ⟨_, .head _, by decide⟩ hfirst
  obtain ⟨hall', hless⟩ := rank_of_covers hpos (by decide) ⟨_, .tail _ (.head _), by decide⟩ hthird
  exact ⟨hpos, hfirst, hthird, htied, fun hlt => (hall 3 hroom).2.2.1 hlt htied, (hall' 3 hroom).2.2.2 hnot,
    fun limit hlimit => (hless limit hlimit).resolve_right hnot⟩

end StaffIndex.Search
