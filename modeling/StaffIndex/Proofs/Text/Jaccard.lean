import StaffIndex.Proofs.Sorted.Set
import StaffIndex.Proofs.Text.Similarity

/-!
# The Jaccard index

The similarity of two texts is the number of trigrams that they have in common over the number of those that either has
(`similarity_eq_div`). It is the same from either side (`similarity_comm`), and a text is entirely similar to itself just
if it has a word character (`similarity_self_iff`).
-/

namespace StaffIndex.Text

variable {a b : String}

/-- The common trigrams are counted twice in the sum of both counts, so nothing is lost where they are taken off. -/
theorem size_add_size_sub (a b : String) : (trigrams a).size + (trigrams b).size - (trigrams a ∩ trigrams b).size =
    (trigrams a ∪ trigrams b).size := by
  have hsizes := SortedSet.size_union_add_size_inter (trigrams a) (trigrams b)
  omega

theorem similarity_eq_div (ha : (trigrams a).isEmpty = false) (hb : (trigrams b).isEmpty = false) :
    similarity a b = Float.ofNat (trigrams a ∩ trigrams b).size / Float.ofNat (trigrams a ∪ trigrams b).size := by
  rw [← size_add_size_sub]
  simp only [similarity, ha, hb, Bool.or_self, Bool.false_eq_true, if_false]
  rfl

theorem similarity_of_isEmpty (h : (trigrams a).isEmpty = true ∨ (trigrams b).isEmpty = true) :
    similarity a b = 0.0 := by
  rw [← Bool.or_eq_true] at h
  simp only [similarity, h, if_true]

theorem similarity_comm (a b : String) : similarity a b = similarity b a := by
  by_cases h : (trigrams a).isEmpty = true ∨ (trigrams b).isEmpty = true
  · rw [similarity_of_isEmpty h, similarity_of_isEmpty h.symm]
  · rw [not_or, Bool.not_eq_true, Bool.not_eq_true] at h
    rw [similarity_eq_div h.1 h.2, similarity_eq_div h.2 h.1, SortedSet.inter_comm, SortedSet.union_comm]

theorem similarity_self_iff : similarity a a = 1 ↔ ∃ c ∈ a.toList, isWordChar c = true := by
  refine ⟨fun h => ?_, similarity_self⟩
  by_contra hnone
  have hempty : (trigrams a).isEmpty = true := isEmpty_trigrams_iff.2 fun c hc => by
    exact Bool.eq_false_iff.2 fun hword => hnone ⟨c, hc, hword⟩
  rw [similarity_of_isEmpty (.inl hempty)] at h
  exact absurd h (by decide +kernel)

/-- **Jaccard index.** If both texts have trigrams, the similarity is the quotient of the number of common ones by the
number of all: taking the common ones off the sum of both counts, which is less than `2 ^ 64`, neither goes below zero
nor leaves zero. Otherwise it is zero. There are no more common ones than all, just as many only if the texts have the
same trigrams, and none only if they share none. The similarity is symmetric, and one of a text to itself just if it has
a word character. -/
theorem similarity_jaccard (a b : String) :
    ((trigrams a).isEmpty = false → (trigrams b).isEmpty = false →
      (trigrams a).size + (trigrams b).size < 2 ^ 64 ∧
      (trigrams a ∩ trigrams b).size ≤ (trigrams a).size + (trigrams b).size ∧
      (trigrams a).size + (trigrams b).size - (trigrams a ∩ trigrams b).size = (trigrams a ∪ trigrams b).size ∧
      0 < (trigrams a ∪ trigrams b).size ∧
      similarity a b = Float.ofNat (trigrams a ∩ trigrams b).size / Float.ofNat (trigrams a ∪ trigrams b).size) ∧
    ((trigrams a).isEmpty = true ∨ (trigrams b).isEmpty = true → similarity a b = 0.0) ∧
    (trigrams a ∩ trigrams b).size ≤ (trigrams a ∪ trigrams b).size ∧
    ((trigrams a ∩ trigrams b).size = (trigrams a ∪ trigrams b).size ↔ trigrams a = trigrams b) ∧
    ((trigrams a ∩ trigrams b).size = 0 ↔ ∀ t ∈ trigrams a, t ∉ trigrams b) ∧
    similarity a b = similarity b a ∧
    (similarity a a = 1 ↔ ∃ c ∈ a.toList, isWordChar c = true) := by
  refine ⟨fun ha hb => ?_, similarity_of_isEmpty, SortedSet.size_inter_le_size_union _ _,
    SortedSet.size_inter_eq_size_union_iff, SortedSet.size_inter_eq_zero_iff, similarity_comm a b, similarity_self_iff⟩
  have hsizes := SortedSet.size_union_add_size_inter (trigrams a) (trigrams b)
  have hcommon := SortedSet.size_inter_le_size_union (trigrams a) (trigrams b)
  have hla := size_trigrams_le a
  have hlb := size_trigrams_le b
  have hpos : (trigrams a).size ≠ 0 := size_ne_zero_of_isEmpty ha
  exact ⟨by omega, by omega, size_add_size_sub a b, by omega, similarity_eq_div ha hb⟩

/-- Both words begin with the same two trigrams. The shorter one has one more, and the longer one has three. -/
theorem similarity_jaccard_beginnings : (trigrams "iv").isEmpty = false ∧ (trigrams "ivan").isEmpty = false ∧
    similarity "iv" "ivan" = Float.ofNat 2 / Float.ofNat 6 := by
  have hshort : (trigrams "iv").isEmpty = false := by decide +kernel
  have hlong : (trigrams "ivan").isEmpty = false := by decide +kernel
  have hcommon : (trigrams "iv" ∩ trigrams "ivan").size = 2 := by decide +kernel
  have hall : (trigrams "iv" ∪ trigrams "ivan").size = 6 := by decide +kernel
  obtain ⟨-, -, -, -, hquotient⟩ := (similarity_jaccard "iv" "ivan").1 hshort hlong
  rw [hcommon, hall] at hquotient
  exact ⟨hshort, hlong, hquotient⟩

end StaffIndex.Text
