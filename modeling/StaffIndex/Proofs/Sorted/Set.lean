import Mathlib.Data.Finset.Card
import Mathlib.Data.Finset.Dedup
import StaffIndex.Sorted.Set

/-!
# Unions and intersections

A sorted set is a finite set (`toFinset`) with its members in order, so the sizes of a union and an intersection are
related as those of finite sets are (`size_union_add_size_inter`). Two sets have at most as many members in common as
there are in either, and just as many only if they are equal (`size_inter_eq_size_union_iff`).
-/

namespace StaffIndex.SortedSet

variable {α : Type} [Ord α] {a : α} {s t : SortedSet α}

/-! ## Members -/

section Union

variable [Std.TransOrd α] [Std.LawfulEqOrd α]

instance : Union (SortedSet α) := ⟨fun s t => ofList (s.toList ++ t.toList)⟩

@[simp] theorem mem_union : a ∈ s ∪ t ↔ a ∈ s ∨ a ∈ t := mem_ofList.trans List.mem_append

theorem union_comm (s t : SortedSet α) : s ∪ t = t ∪ s := ext fun a => by simp [or_comm]

theorem ofList_append (l m : List α) : ofList (l ++ m) = ofList l ∪ ofList m := ext fun a => by simp

end Union

section Map

variable {β : Type} [Ord β] [Std.TransOrd β] [Std.LawfulEqOrd β]

/-- The set of the images of the members. -/
def map (f : α → β) (s : SortedSet α) : SortedSet β := ofList (s.toList.map f)

@[simp] theorem mem_map {f : α → β} {b : β} : b ∈ s.map f ↔ ∃ a ∈ s, f a = b := mem_ofList.trans List.mem_map

theorem map_ofList [Std.TransOrd α] [Std.LawfulEqOrd α] (f : α → β) (l : List α) : (ofList l).map f = ofList (l.map f) :=
  ext fun b => by simp

end Map

section Inter

variable [DecidableEq α]

instance : Inter (SortedSet α) := ⟨fun s t => s.filter t.toList.contains⟩

@[simp] theorem mem_inter : a ∈ s ∩ t ↔ a ∈ s ∧ a ∈ t :=
  mem_filter.trans (and_congr_right fun _ => List.contains_iff_mem)

theorem inter_comm [Std.TransOrd α] (s t : SortedSet α) : s ∩ t = t ∩ s := ext fun a => by simp [and_comm]

end Inter

/-! ## Sizes -/

variable [DecidableEq α]

def toFinset (s : SortedSet α) : Finset α := s.toList.toFinset

@[simp] theorem mem_toFinset : a ∈ s.toFinset ↔ a ∈ s := List.mem_toFinset

theorem toFinset_inter (s t : SortedSet α) : (s ∩ t).toFinset = s.toFinset ∩ t.toFinset := by
  ext a
  simp

variable [Std.TransOrd α]

theorem card_toFinset (s : SortedSet α) : s.toFinset.card = s.size := List.toFinset_card_of_nodup s.nodup_toList

theorem size_inter_eq_zero_iff : (s ∩ t).size = 0 ↔ ∀ a ∈ s, a ∉ t := by
  rw [← card_toFinset, Finset.card_eq_zero, Finset.eq_empty_iff_forall_notMem]
  simp

variable [Std.LawfulEqOrd α]

theorem toFinset_union (s t : SortedSet α) : (s ∪ t).toFinset = s.toFinset ∪ t.toFinset := by
  ext a
  simp

theorem size_union_add_size_inter (s t : SortedSet α) : (s ∪ t).size + (s ∩ t).size = s.size + t.size := by
  simp only [← card_toFinset, toFinset_union, toFinset_inter]
  exact Finset.card_union_add_card_inter _ _

theorem inter_subset_union (s t : SortedSet α) : (s ∩ t).toFinset ⊆ (s ∪ t).toFinset := by
  intro a ha
  simp only [mem_toFinset, mem_inter, mem_union] at ha ⊢
  exact .inl ha.1

theorem size_inter_le_size_union (s t : SortedSet α) : (s ∩ t).size ≤ (s ∪ t).size := by
  rw [← card_toFinset, ← card_toFinset]
  exact Finset.card_le_card (inter_subset_union s t)

/-- Only equal sets have as many members in common as in either. -/
theorem size_inter_eq_size_union_iff : (s ∩ t).size = (s ∪ t).size ↔ s = t := by
  constructor
  · intro h
    rw [← card_toFinset, ← card_toFinset] at h
    have heq := Finset.eq_of_subset_of_card_le (inter_subset_union s t) h.ge
    refine ext fun a => ?_
    have hmem : a ∈ (s ∩ t).toFinset ↔ a ∈ (s ∪ t).toFinset := by rw [heq]
    simp only [mem_toFinset, mem_inter, mem_union] at hmem
    tauto
  · rintro rfl
    exact congrArg size (ext fun a => by simp)

end StaffIndex.SortedSet
