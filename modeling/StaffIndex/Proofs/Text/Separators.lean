import StaffIndex.Proofs.Sorted.Set
import StaffIndex.Proofs.Text.Similarity

/-!
# Words and separators

No word goes on across a separator and none is cut by anything else, so a text that is put together of two texts with
separators between them has the words of both, one after the other (`words_append`). So it has the trigrams of both
(`trigrams_split`). The trigrams of a text, and how similar it is to others, depend on nothing but which words it has
(`trigrams_eq_of_words`, `similarity_congr`).
-/

namespace StaffIndex.Text

/-! ## Words -/

theorem words_append_cons {c : Char} (hc : isWordChar c = false) (before after : List Char) :
    words (before ++ c :: after) = words before ++ words after := by
  rw [words, List.splitOnP_append_cons before after (by rw [hc, Bool.not_false]), List.filter_append, words, words]

/-- Separators belong to no word. -/
theorem words_append_separators {separators : List Char} (h : ∀ c ∈ separators, isWordChar c = false)
    (after : List Char) : words (separators ++ after) = words after := by
  induction separators with
  | nil => rfl
  | cons c separators ih =>
    rw [List.forall_mem_cons] at h
    rw [List.cons_append]
    exact (words_append_cons h.1 [] _).trans (ih h.2)

/-- The words before separators and those behind them. -/
theorem words_append {separators : List Char} (hne : separators ≠ []) (h : ∀ c ∈ separators, isWordChar c = false)
    (before after : List Char) : words (before ++ separators ++ after) = words before ++ words after := by
  obtain ⟨c, separators, rfl⟩ := List.exists_cons_of_ne_nil hne
  rw [List.forall_mem_cons] at h
  rw [List.append_assoc, List.cons_append, words_append_cons h.1, words_append_separators h.2]

/-! ## Trigrams -/

theorem trigrams_eq_of_words {a b : String} (h : ∀ word, word ∈ words a.toList ↔ word ∈ words b.toList) :
    trigrams a = trigrams b := SortedSet.ext fun t => by simp only [mem_trigrams, h]

/-- A similarity depends on the trigrams alone. -/
theorem similarity_congr {a b c d : String} (hab : trigrams a = trigrams b) (hcd : trigrams c = trigrams d) :
    similarity a c = similarity b d := by
  rw [similarity, similarity, hab, hcd]

/-- **Separators.** Two texts with separators between them have together the words of both, hence the trigrams of both.
A text has no trigrams just if it has no word character. Texts with the same words, in whatever order, however often
and with whatever between them, have the same trigrams, and are equally similar to any text from either side. -/
theorem trigrams_split :
    (∀ a separators b : String, separators ≠ "" → (∀ c ∈ separators.toList, isWordChar c = false) →
      words (a ++ separators ++ b).toList = words a.toList ++ words b.toList ∧
      trigrams (a ++ separators ++ b) = trigrams a ∪ trigrams b) ∧
    (∀ a : String, (trigrams a).isEmpty = true ↔ ∀ c ∈ a.toList, isWordChar c = false) ∧
    (∀ a b : String, (∀ word, word ∈ words a.toList ↔ word ∈ words b.toList) →
      trigrams a = trigrams b ∧ ∀ c, similarity a c = similarity b c ∧ similarity c a = similarity c b) := by
  refine ⟨fun a separators b hne hsep => ?_, fun a => isEmpty_trigrams_iff, fun a b h => ?_⟩
  · have hwords : words (a ++ separators ++ b).toList = words a.toList ++ words b.toList := by
      rw [String.toList_append, String.toList_append]
      exact words_append (fun hnil => hne (String.toList_eq_nil_iff.1 hnil)) hsep _ _
    refine ⟨hwords, ?_⟩
    rw [trigrams, hwords, List.flatMap_append, SortedSet.ofList_append, trigrams, trigrams]
  · have htrigrams := trigrams_eq_of_words h
    exact ⟨htrigrams, fun c => ⟨similarity_congr htrigrams rfl, similarity_congr rfl htrigrams⟩⟩

/-- A hyphen, a comma and an apostrophe are separators, and one of the words is there twice. -/
theorem trigrams_split_commas :
    trigrams ("Anna-Maria" ++ ", " ++ "Орлова") = trigrams "Anna-Maria" ∪ trigrams "Орлова" ∧
    trigrams "Anna-Maria, Anna" = trigrams "Maria'Anna" ∧
    ∀ c, similarity "Anna-Maria, Anna" c = similarity "Maria'Anna" c := by
  obtain ⟨hsplit, -, hwords⟩ := trigrams_split
  have hleft : words "Anna-Maria, Anna".toList = ["Anna".toList, "Maria".toList, "Anna".toList] := by decide +kernel
  have hright : words "Maria'Anna".toList = ["Maria".toList, "Anna".toList] := by decide +kernel
  have hsame : ∀ word, word ∈ words "Anna-Maria, Anna".toList ↔ word ∈ words "Maria'Anna".toList := by
    intro word
    simp only [hleft, hright, List.mem_cons, List.not_mem_nil, or_false]
    rw [or_left_comm, or_self]
  obtain ⟨htrigrams, hsimilar⟩ := hwords _ _ hsame
  have hcomma : ∀ c ∈ ", ".toList, isWordChar c = false := by
    have h : ", ".toList.all (fun c => !isWordChar c) = true := by decide +kernel
    simpa using h
  exact ⟨(hsplit "Anna-Maria" ", " "Орлова" (by decide) hcomma).2, htrigrams, fun c => (hsimilar c).1⟩

end StaffIndex.Text
