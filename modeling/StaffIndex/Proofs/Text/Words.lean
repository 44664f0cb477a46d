import StaffIndex.Proofs.Text.Lowered

/-!
# Word by word

A text can be lowered word by word: the tokens of a query, which are cut first and lowered each by itself, are the words
of the lowered query (`tokens_eq_words`).

- A blank has no case and is not looked through, so a sigma before it sees the end of the text there, and one behind it
  the beginning (`lowerFrom_append`, `casedAfter_blank`). The induction is on the words (`lowerFrom_intercalate`).
- Blanks are the lower-case forms of blanks alone (`blank_mem_of_mem_lowerFrom`), so lowering a word does not part it.
-/

namespace StaffIndex

namespace Text

/-! ## Blanks -/

/-- Looking on past a blank, no character with case is found. -/
theorem startsCased_blank (text : List Char) : startsCased (' ' :: text) = false := by
  rw [startsCased_cons, if_neg (by decide +kernel)]
  decide +kernel

theorem casedAfter_blank (afterCased : Bool) : casedAfter afterCased [' '] = false := by
  cases afterCased <;> decide +kernel

theorem lowerAt_blank (afterCased : Bool) (text : List Char) : lowerAt afterCased ' ' text = [' '] := by
  rw [lowerAt, if_neg (by decide)]
  decide +kernel

theorem eq_blank_of_mem_lowerChar {c : Char} (h : ' ' ∈ lowerChar c) : c = ' ' :=
  eq_of_mem_lowerChar (by decide +kernel) (by decide) (by decide) h

theorem blank_mem_of_mem_lowerFrom {afterCased : Bool} {text : List Char} (h : ' ' ∈ lowerFrom afterCased text) :
    ' ' ∈ text := by
  induction text generalizing afterCased with
  | nil => cases h
  | cons c text ih =>
    rw [lowerFrom_cons, List.mem_append] at h
    rcases h with h | h
    · unfold lowerAt at h
      split at h
      · rw [List.mem_singleton] at h
        split at h <;> exact absurd h (by decide)
      · rw [eq_blank_of_mem_lowerChar h]
        exact .head _
    · exact .tail _ (ih h)

/-! ## Words -/

/-- The characters of the pieces are those that were not split at. -/
theorem exists_mem_splitOnP_iff {α : Type} {p : α → Bool} {l : List α} {a : α} :
    (∃ piece ∈ l.splitOnP p, a ∈ piece) ↔ a ∈ l ∧ p a = false := by
  induction l with
  | nil => simp
  | cons b l ih =>
    obtain ⟨piece, pieces, hp⟩ := List.exists_cons_of_ne_nil (List.splitOnP_ne_nil p l)
    rw [List.splitOnP_cons_eq_if_modifyHead]
    rw [hp] at ih ⊢
    by_cases hb : p b = true
    · simp only [hb, if_true, List.mem_cons, exists_eq_or_imp] at ih ⊢
      grind
    · simp only [hb, List.modifyHead_cons, List.mem_cons, exists_eq_or_imp] at ih ⊢
      grind

/-- The pieces of a text that is cut at blanks have none. -/
theorem blank_not_mem_of_mem_splitOn {text piece : List Char} (h : piece ∈ text.splitOn ' ') : ' ' ∉ piece := by
  intro hblank
  rw [List.splitOn_eq_splitOnP] at h
  simpa using (exists_mem_splitOnP_iff.1 ⟨piece, h, hblank⟩).2

/-- What begins without case does not change the text before it. -/
theorem lowerFrom_append {after : List Char} (h : startsCased after = false) (afterCased : Bool) (before : List Char) :
    lowerFrom afterCased (before ++ after) =
      lowerFrom afterCased before ++ lowerFrom (casedAfter afterCased before) after := by
  induction before generalizing afterCased with
  | nil => rfl
  | cons c before ih =>
    have hparted : ¬ SigmaParted afterCased c before after := fun hp => Bool.false_ne_true (h.symm.trans hp.2.2.2)
    rw [List.cons_append, lowerFrom_cons, lowerFrom_cons, lowerAt_append hparted, ih, List.append_assoc]
    rfl

/-- Before and after a blank a text is lowered as if the blank were its end and its beginning. -/
theorem lowerFrom_append_blank (afterCased : Bool) (before after : List Char) :
    lowerFrom afterCased (before ++ ' ' :: after) = lowerFrom afterCased before ++ ' ' :: lowerFrom false after := by
  rw [lowerFrom_append (startsCased_blank after), lowerFrom_cons, lowerAt_blank, casedAfter_blank]
  rfl

/-- **Word by word.** Lowering the words and joining them is joining them and lowering the text. -/
theorem lowerFrom_intercalate (words : List (List Char)) :
    lowerFrom false ([' '].intercalate words) = [' '].intercalate (words.map (lowerFrom false)) := by
  induction words with
  | nil => rfl
  | cons word words ih =>
    cases words with
    | nil => simp
    | cons next words =>
      rw [List.map_cons, List.map_cons, List.intercalate_cons_cons, List.intercalate_cons_cons, ← List.map_cons, ← ih,
        List.append_assoc, List.append_assoc]
      exact lowerFrom_append_blank false word _

end Text

namespace Key

theorem map_toList_tokens (query : String) : (tokens query).map String.toList =
    ((withoutTrailingSpace query.toList).splitOn ' ').map (Text.lowerFrom false) := by
  rw [tokens, List.map_map]
  exact List.map_congr_left fun word _ => (toList_ofText _).trans (congrArg _ String.toList_ofList)

/-- **The words of a query.** There is at least one token and no token has a blank. Joined by single blanks, the tokens
are the key of the query without one trailing blank, and they are what this key falls into when it is cut at blanks. -/
theorem tokens_eq_words (query : String) :
    tokens query ≠ [] ∧ (∀ token ∈ tokens query, ' ' ∉ token.toList) ∧
    " ".intercalate (tokens query) = ofText (String.ofList (withoutTrailingSpace query.toList)) ∧
    tokens query =
      ((ofText (String.ofList (withoutTrailingSpace query.toList))).toList.splitOn ' ').map String.ofList := by
  have hne : tokens query ≠ [] := by
    rw [tokens, Ne, List.map_eq_nil_iff]
    exact List.splitOn_ne_nil ' ' _
  have hblank : ∀ token ∈ tokens query, ' ' ∉ token.toList := by
    intro token ht h
    obtain ⟨word, hw, rfl⟩ := List.mem_map.1 ht
    rw [toList_ofText, String.toList_ofList] at h
    exact Text.blank_not_mem_of_mem_splitOn hw (Text.blank_mem_of_mem_lowerFrom h)
  have hjoin : [' '].intercalate ((tokens query).map String.toList) =
      (ofText (String.ofList (withoutTrailingSpace query.toList))).toList := by
    rw [map_toList_tokens, ← Text.lowerFrom_intercalate, List.intercalate_splitOn, toList_ofText,
      String.toList_ofList]
  have hsplit : (ofText (String.ofList (withoutTrailingSpace query.toList))).toList.splitOn ' ' =
      (tokens query).map String.toList := by
    rw [← hjoin]
    refine List.splitOn_intercalate ' ' (fun word hw => ?_) (by simpa using hne)
    obtain ⟨token, ht, rfl⟩ := List.mem_map.1 hw
    exact hblank token ht
  refine ⟨hne, hblank, ?_, ?_⟩
  · rw [← String.toList_inj, String.toList_intercalate]
    exact hjoin
  · rw [hsplit, List.map_map]
    exact ((List.map_congr_left fun token _ => String.ofList_toList).trans (List.map_id _)).symm

/-- A sigma at the end of a word of the query is final although the query goes on, and one in the middle is not. -/
example : tokens "ΟΔΟΣ ΣΟΦΙΑΣ  " = ["οδος", "σοφιας", ""] := by decide +kernel

end Key

end StaffIndex
