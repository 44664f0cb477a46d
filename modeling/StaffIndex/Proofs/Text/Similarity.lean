import StaffIndex.Proofs.Binary64.NonNegative
import StaffIndex.Proofs.Text.Words
import StaffIndex.Trigram

/-!
# Values of the similarity

There are fewer than `2 ^ 61` trigrams (`size_trigrams_le`), so the counts of the similarity are numbers of full
precision.

- A text has trigrams just if it has a word character (`isEmpty_trigrams_iff`), and then it is entirely similar to itself
  (`similarity_self`).
- A similarity is never undefined and has no sign (`nonNegative_similarity`).
-/

namespace StaffIndex

/-! ## Counting trigrams -/

namespace Trigram

/-- The number with the three code points as its digits. -/
def code (t : Trigram) : Nat := (t.first.toNat * 0x110000 + t.second.toNat) * 0x110000 + t.third.toNat

theorem toNat_lt (c : Char) : c.toNat < 0x110000 := by
  rcases c.valid with h | h
  · exact Nat.lt_trans h (by decide)
  · exact h.2

theorem code_lt (t : Trigram) : t.code < 0x110000 ^ 3 := by
  have h₁ := toNat_lt t.first
  have h₂ := toNat_lt t.second
  have h₃ := toNat_lt t.third
  unfold code
  omega

theorem code_injective {t u : Trigram} (h : t.code = u.code) : t = u := by
  have ht₂ := toNat_lt t.second
  have ht₃ := toNat_lt t.third
  have hu₂ := toNat_lt u.second
  have hu₃ := toNat_lt u.third
  unfold code at h
  have h₁ : t.first = u.first := Char.toNat_inj.1 (by omega)
  have h₂ : t.second = u.second := Char.toNat_inj.1 (by omega)
  have h₃ : t.third = u.third := Char.toNat_inj.1 (by omega)
  cases t; cases u
  cases h₁; cases h₂; cases h₃
  rfl

end Trigram

namespace Text

theorem size_trigrams_le (text : String) : (trigrams text).size ≤ 0x110000 ^ 3 := by
  have hnodup : ((trigrams text).toList.map Trigram.code).Nodup :=
    List.pairwise_map.2 ((trigrams text).nodup_toList.imp fun hne heq => hne (Trigram.code_injective heq))
  have hsub : (trigrams text).toList.map Trigram.code ⊆ List.range (0x110000 ^ 3) := by
    intro n hn
    obtain ⟨t, -, rfl⟩ := List.mem_map.1 hn
    exact List.mem_range.2 t.code_lt
  have hlen := hnodup.length_le_of_subset hsub
  rwa [List.length_map, List.length_range] at hlen

/-! ## Texts without trigrams -/

theorem windows_padded_ne_nil (word : List Char) : windows (padded word) ≠ [] := by
  unfold padded
  cases word.flatMap lowerChar <;> simp [windows]

theorem ne_nil_of_mem_words {text word : List Char} (h : word ∈ words text) : word ≠ [] :=
  of_decide_eq_true (List.mem_filter.1 h).2

/-- The words of a text are made of its word characters. -/
theorem exists_mem_words_iff {text : List Char} {c : Char} :
    (∃ word ∈ words text, c ∈ word) ↔ c ∈ text ∧ isWordChar c = true := by
  have hpieces := exists_mem_splitOnP_iff (p := fun c => !isWordChar c) (l := text) (a := c)
  rw [Bool.not_eq_false'] at hpieces
  rw [← hpieces]
  constructor
  · rintro ⟨word, hw, hc⟩
    exact ⟨word, (List.mem_filter.1 hw).1, hc⟩
  · rintro ⟨piece, hp, hc⟩
    exact ⟨piece, List.mem_filter.2 ⟨hp, decide_eq_true (List.ne_nil_of_mem hc)⟩, hc⟩

theorem mem_trigrams {text : String} {t : Trigram} :
    t ∈ trigrams text ↔ ∃ word ∈ words text.toList, t ∈ windows (padded word) := by
  rw [trigrams, SortedSet.mem_ofList, List.mem_flatMap]

theorem isEmpty_trigrams_iff {text : String} :
    (trigrams text).isEmpty = true ↔ ∀ c ∈ text.toList, isWordChar c = false := by
  rw [SortedSet.isEmpty, List.isEmpty_iff, List.eq_nil_iff_forall_not_mem]
  constructor
  · intro h c hc
    refine Bool.eq_false_iff.2 fun hword => ?_
    obtain ⟨word, hw, -⟩ := exists_mem_words_iff.2 ⟨hc, hword⟩
    obtain ⟨t, ht⟩ := List.exists_mem_of_ne_nil _ (windows_padded_ne_nil word)
    exact h t (SortedSet.mem_def.1 (mem_trigrams.2 ⟨word, hw, ht⟩))
  · intro h t ht
    obtain ⟨word, hw, -⟩ := mem_trigrams.1 (SortedSet.mem_def.2 ht)
    obtain ⟨c, hc⟩ := List.exists_mem_of_ne_nil _ (ne_nil_of_mem_words hw)
    obtain ⟨hct, hword⟩ := exists_mem_words_iff.1 ⟨word, hw, hc⟩
    rw [h c hct] at hword
    cases hword

/-! ## Similarity -/

theorem size_ne_zero_of_isEmpty {s : SortedSet Trigram} (h : s.isEmpty = false) : s.size ≠ 0 := by
  intro hsize
  rw [SortedSet.isEmpty, List.length_eq_zero_iff.1 hsize] at h
  cases h

theorem size_filter_le {α : Type} [Ord α] (s : SortedSet α) (p : α → Bool) : (s.filter p).size ≤ s.size :=
  List.length_filter_le p s.toList

/-- A text with a word character is entirely similar to itself. -/
theorem similarity_self {text : String} (h : ∃ c ∈ text.toList, isWordChar c = true) : similarity text text = 1 := by
  have hempty : (trigrams text).isEmpty = false := by
    rw [Bool.eq_false_iff, Ne, isEmpty_trigrams_iff]
    obtain ⟨c, hc, hword⟩ := h
    intro hnone
    rw [hnone c hc] at hword
    cases hword
  have hcommon : ((trigrams text).filter (trigrams text).toList.contains).size = (trigrams text).size := by
    have hall : (trigrams text).toList.filter (trigrams text).toList.contains = (trigrams text).toList :=
      List.filter_eq_self.2 fun t ht => List.contains_iff_mem.2 ht
    exact congrArg List.length hall
  have hle := size_trigrams_le text
  simp only [similarity, hempty, Bool.or_self, Bool.false_eq_true, if_false, hcommon, Nat.add_sub_cancel]
  exact Binary64.div_self (Binary64.normal_ofNat (size_ne_zero_of_isEmpty hempty) (by omega))

/-- A similarity is a number without a sign. -/
theorem nonNegative_similarity (a b : String) : Binary64.NonNegative (similarity a b) := by
  unfold similarity
  dsimp only
  split
  · exact .zero
  · next h =>
    have hb : (trigrams b).size ≠ 0 := by
      refine size_ne_zero_of_isEmpty ?_
      rw [Bool.eq_false_iff]
      exact fun hempty => h (by rw [hempty, Bool.or_true])
    have hcommon := size_filter_le (trigrams a) (trigrams b).toList.contains
    have hla := size_trigrams_le a
    have hlb := size_trigrams_le b
    exact .div (.ofNat (by omega)) (Binary64.normal_ofNat (by omega) (by omega))

end Text

end StaffIndex
