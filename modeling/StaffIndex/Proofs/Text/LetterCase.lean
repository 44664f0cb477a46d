import Mathlib.Data.List.Forall2
import StaffIndex.Proofs.Text.LetterKinds
import StaffIndex.Proofs.Text.Separators

/-!
# Trigrams and letter case

Keys are lowered as whole texts, trigrams character by character once the words are cut. Lowering a text changes none of
its trigrams if its letters are lowered one for one to letters of their kind and no sigma is final
(`trigrams_ofText`), and all keys are such texts (`evenlyLowered_ofText`).

- Then the letters of a text and of its key correspond one to one (`alike_lowerFrom`), so do their words
  (`alike_words`), and corresponding words have the same trigrams (`map_trigrams`). The induction on the text carries
  along whether the last character that is not case-ignorable has case. All of this is up to a function of characters:
  the identity, or the one that takes both small sigmas for one.
- On the other hand, what characters the trigrams of a text are made of can be told without cutting it
  (`exists_mem_trigrams_iff`), and so texts whose trigrams do change are found by a character that gets in or out.
-/

namespace StaffIndex

/-- The trigram with each of its characters replaced. -/
def Trigram.map (f : Char → Char) (t : Trigram) : Trigram := ⟨f t.first, f t.second, f t.third⟩

namespace Text

/-! ## Letter by letter -/

/-- The letters are of one kind, and lowered by themselves they are the same up to `fold`. -/
def Alike (fold : Char → Char) (c d : Char) : Prop :=
  isWordChar c = isWordChar d ∧ (lowerChar c).map fold = (lowerChar d).map fold

variable {fold : Char → Char}

/-- A letter is like its form, if it is lowered to one of its kind. -/
theorem alike_lowerChar {c d : Char} (hc : c ∉ unevenLetters) (hd : lowerChar c = [d]) : Alike fold c d := by
  refine ⟨(isWordChar_of_lowerChar hc hd).symm, ?_⟩
  rw [hd, lowerChar_of_mem_lowerChar (hd ▸ List.mem_singleton.2 rfl)]

theorem alike_finalSigma (h : fold 'ς' = fold 'σ') : Alike fold 'Σ' 'ς' := by
  have hcapital : lowerChar 'Σ' = ['σ'] := by decide +kernel
  have hsmall : lowerChar 'ς' = ['ς'] := by decide +kernel
  refine ⟨by decide +kernel, ?_⟩
  rw [hcapital, hsmall, List.map_singleton, List.map_singleton, h]

/-- A lowered letter is like the letter, unless it is a final sigma that `fold` tells from the other one. -/
theorem alike_lowerAt {afterCased : Bool} {c : Char} {text : List Char} (hc : c ∉ unevenLetters)
    (h : fold 'ς' = fold 'σ' ∨ ¬ IsFinalSigma afterCased c text) :
    ∃ d, lowerAt afterCased c text = [d] ∧ Alike fold c d := by
  by_cases hfinal : IsFinalSigma afterCased c text
  · have hsigma := hfinal.1
    subst hsigma
    exact ⟨'ς', lowerAt_of_isFinalSigma hfinal, alike_finalSigma (h.resolve_right (not_not.2 hfinal))⟩
  · have hform := lowerChar_of_ne (ne_dotted_of_not_mem_unevenLetters hc)
    exact ⟨_, (lowerAt_of_not_isFinalSigma hfinal).trans hform, alike_lowerChar hc hform⟩

theorem alike_lowerFrom {afterCased : Bool} {text : List Char} (heven : ∀ c ∈ text, c ∉ unevenLetters)
    (h : fold 'ς' = fold 'σ' ∨ ¬ HasFinalSigmaFrom afterCased text) :
    List.Forall₂ (Alike fold) text (lowerFrom afterCased text) := by
  induction text generalizing afterCased with
  | nil => exact .nil
  | cons c text ih =>
    rw [List.forall_mem_cons] at heven
    rw [hasFinalSigmaFrom_cons, not_or] at h
    obtain ⟨d, hd, halike⟩ := alike_lowerAt heven.1 (h.imp_right And.left)
    rw [lowerFrom_cons, hd]
    exact .cons halike (ih heven.2 (h.imp_right And.right))

/-- Where the letters correspond, so do the words and their letters. -/
theorem alike_splitOnP {text other : List Char} (h : List.Forall₂ (Alike fold) text other) :
    List.Forall₂ (List.Forall₂ (Alike fold)) (text.splitOnP fun c => !isWordChar c)
      (other.splitOnP fun c => !isWordChar c) := by
  induction h with
  | nil => exact .cons .nil .nil
  | @cons c d text other halike _ ih =>
    rw [List.splitOnP_cons_eq_if_modifyHead, List.splitOnP_cons_eq_if_modifyHead, halike.1]
    split
    · exact .cons .nil ih
    · obtain ⟨word, words, hw⟩ := List.exists_cons_of_ne_nil (List.splitOnP_ne_nil (fun c => !isWordChar c) text)
      obtain ⟨word', words', hw'⟩ := List.exists_cons_of_ne_nil (List.splitOnP_ne_nil (fun c => !isWordChar c) other)
      rw [hw, hw'] at ih ⊢
      cases ih with
      | cons hword hwords => exact .cons (.cons halike hword) hwords

theorem alike_words {text other : List Char} (h : List.Forall₂ (Alike fold) text other) :
    List.Forall₂ (List.Forall₂ (Alike fold)) (words text) (words other) := by
  refine List.rel_filter (fun word word' hword => ?_) (alike_splitOnP h)
  cases hword <;> simp

/-! ## Trigrams -/

theorem windows_map (fold : Char → Char) (text : List Char) :
    windows (text.map fold) = (windows text).map (Trigram.map fold) := by
  fun_induction windows text with
  | case1 a b c text ih => exact congrArg (Trigram.map fold ⟨a, b, c⟩ :: ·) ih
  | case2 text h =>
    match text, h with
    | [], _ => rfl
    | [_], _ => rfl
    | [_, _], _ => rfl
    | a :: b :: c :: text, h => exact absurd rfl (h a b c text)

theorem map_padded {word word' : List Char} (h : List.Forall₂ (Alike fold) word word') :
    (padded word).map fold = (padded word').map fold := by
  have hletters : (word.flatMap lowerChar).map fold = (word'.flatMap lowerChar).map fold := by
    induction h with
    | nil => rfl
    | cons halike _ ih => rw [List.flatMap_cons, List.flatMap_cons, List.map_append, List.map_append, halike.2, ih]
  simp only [padded, List.map_cons, List.map_append, hletters]

theorem map_trigrams {a b : String} (h : List.Forall₂ (Alike fold) a.toList b.toList) :
    (trigrams a).map (Trigram.map fold) = (trigrams b).map (Trigram.map fold) := by
  rw [trigrams, trigrams, SortedSet.map_ofList, SortedSet.map_ofList, List.map_flatMap, List.map_flatMap]
  congr 1
  have hwords := alike_words h
  generalize words a.toList = left, words b.toList = right at hwords ⊢
  induction hwords with
  | nil => rfl
  | cons hword _ ih =>
    rw [List.flatMap_cons, List.flatMap_cons, ih, ← windows_map, ← windows_map, map_padded hword]

theorem map_id_trigrams (text : String) : (trigrams text).map (Trigram.map id) = trigrams text :=
  SortedSet.ext fun t => SortedSet.mem_map.trans ⟨fun ⟨_, hu, heq⟩ => heq ▸ hu, fun ht => ⟨t, ht, rfl⟩⟩

/-! ## The characters of trigrams -/

theorem mem_of_mem_windows {text : List Char} {t : Trigram} (ht : t ∈ windows text) {c : Char} (hc : c ∈ t.chars) :
    c ∈ text := by
  fun_induction windows text with
  | case1 x y z text ih =>
    rcases List.mem_cons.1 ht with rfl | ht
    · simp only [Trigram.chars, List.mem_cons, List.not_mem_nil, or_false] at hc
      grind
    · exact .tail _ (ih ht)
  | case2 => cases ht

theorem exists_mem_windows {text : List Char} (hlength : 3 ≤ text.length) {c : Char} (hc : c ∈ text) :
    ∃ t ∈ windows text, c ∈ t.chars := by
  fun_induction windows text with
  | case1 x y z text ih =>
    by_cases hfirst : c ∈ [x, y, z]
    · exact ⟨_, .head _, hfirst⟩
    · have htext : c ∈ text := by
        simp only [List.mem_cons, List.not_mem_nil, or_false] at hc hfirst
        grind
      have hlonger : 0 < text.length := List.length_pos_of_mem htext
      obtain ⟨t, ht, hct⟩ := ih (by simp only [List.length_cons]; omega) (.tail _ (.tail _ htext))
      exact ⟨t, .tail _ ht, hct⟩
  | case2 text h =>
    match text, h with
    | [], _ | [_], _ | [_, _], _ => simp at hlength
    | x :: y :: z :: text, h => exact absurd rfl (h x y z text)

theorem mem_padded {word : List Char} {c : Char} : c ∈ padded word ↔ c = ' ' ∨ ∃ x ∈ word, c ∈ lowerChar x := by
  simp only [padded, List.mem_cons, List.mem_append, List.mem_flatMap, List.not_mem_nil, or_false]
  grind

/-- But for the blanks, trigrams are made of the lower-case forms of word characters, and all of these are in some. -/
theorem exists_mem_trigrams_iff {text : String} {c : Char} (hc : c ≠ ' ') :
    (∃ t ∈ trigrams text, c ∈ t.chars) ↔ ∃ x ∈ text.toList, isWordChar x = true ∧ c ∈ lowerChar x := by
  constructor
  · rintro ⟨t, ht, hct⟩
    obtain ⟨word, hw, hwindow⟩ := mem_trigrams.1 ht
    obtain ⟨x, hx, hcx⟩ := (mem_padded.1 (mem_of_mem_windows hwindow hct)).resolve_left hc
    obtain ⟨hxt, hword⟩ := exists_mem_words_iff.1 ⟨word, hw, hx⟩
    exact ⟨x, hxt, hword, hcx⟩
  · rintro ⟨x, hxt, hword, hcx⟩
    obtain ⟨word, hw, hx⟩ := exists_mem_words_iff.2 ⟨hxt, hword⟩
    have hletters : 0 < (word.flatMap lowerChar).length :=
      List.length_pos_of_mem (List.mem_flatMap.2 ⟨x, hx, hcx⟩)
    have hlength : 3 ≤ (padded word).length := by
      simp only [padded, List.length_cons, List.length_append]
      omega
    obtain ⟨t, ht, hct⟩ := exists_mem_windows hlength (mem_padded.2 (.inr ⟨x, hx, hcx⟩))
    exact ⟨t, mem_trigrams.2 ⟨word, hw, ht⟩, hct⟩

/-! ## Lowered texts -/

/-- Lowered characters are their own lower-case forms. -/
theorem lowerChar_of_mem_ofText {text : String} {c : Char} (h : c ∈ (Key.ofText text).toList) : lowerChar c = [c] := by
  rw [Key.toList_ofText] at h
  exact lowerChar_of_mem_lowerFrom h

theorem mem_ofText_of_mem_lowerChar {text : String} {c d : Char} (hc : c ∈ text.toList) (hsigma : c ≠ 'Σ')
    (hd : d ∈ lowerChar c) : d ∈ (Key.ofText text).toList := by
  rw [Key.toList_ofText]
  generalize false = afterCased, text.toList = text at hc ⊢
  induction text generalizing afterCased with
  | nil => cases hc
  | cons x text ih =>
    rw [lowerFrom_cons, List.mem_append]
    rcases List.mem_cons.1 hc with rfl | hc
    · rw [lowerAt_of_not_isFinalSigma fun hfinal => hsigma hfinal.1]
      exact .inl hd
    · exact .inr (ih _ hc)

/-- Trigrams of the lowered text are made of its word characters. -/
theorem exists_mem_trigrams_ofText_iff {text : String} {c : Char} (hc : c ≠ ' ') :
    (∃ t ∈ trigrams (Key.ofText text), c ∈ t.chars) ↔ c ∈ (Key.ofText text).toList ∧ isWordChar c = true := by
  rw [exists_mem_trigrams_iff hc]
  constructor
  · rintro ⟨x, hx, hword, hcx⟩
    rw [lowerChar_of_mem_ofText hx, List.mem_singleton] at hcx
    exact hcx ▸ ⟨hx, hword⟩
  · rintro ⟨hmem, hword⟩
    exact ⟨c, hmem, hword, by rw [lowerChar_of_mem_ofText hmem]; exact .head _⟩

/-- The dot of the capital I with a dot is in its trigrams, and it is a separator where it stands alone. -/
theorem dotted_not_mem {text : String} (h : trigrams (Key.ofText text) = trigrams text) : 'İ' ∉ text.toList := by
  intro hmem
  have hdot : isWordChar '\u0307' = false := by decide +kernel
  have hletters : ∃ t ∈ trigrams text, '\u0307' ∈ t.chars :=
    (exists_mem_trigrams_iff (by decide)).2 ⟨'İ', hmem, by decide +kernel, by decide⟩
  rw [← h, exists_mem_trigrams_ofText_iff (by decide), hdot] at hletters
  cases hletters.2

/-- A form that only lowering the whole text gives makes new trigrams, unless the text has it anyway. -/
theorem mem_of_mem_wholeTextForms {text : String} {d : Char} (hd : d ∈ wholeTextForms)
    (hmem : d ∈ (Key.ofText text).toList) (h : trigrams (Key.ofText text) = trigrams text) : d ∈ text.toList := by
  have hletter : isWordChar d = true ∧ d ≠ ' ' := by
    have hall : wholeTextForms.all (fun d => isWordChar d && d != ' ') = true := by decide +kernel
    simpa using List.all_eq_true.1 hall d hd
  have hletters := (exists_mem_trigrams_ofText_iff hletter.2).2 ⟨hmem, hletter.1⟩
  rw [h, exists_mem_trigrams_iff hletter.2] at hletters
  obtain ⟨x, hx, hword, hform⟩ := hletters
  exact eq_of_mem_wholeTextForms hd hword hform ▸ hx

/-! ## Main statement -/

/-- The text has none of the uneven letters, and no sigma of it is final. -/
structure EvenlyLowered (text : List Char) : Prop where
  even : ∀ c ∈ text, c ∉ unevenLetters
  noFinalSigma : ¬ HasFinalSigma text

instance (text : List Char) : Decidable (EvenlyLowered text) :=
  decidable_of_iff (text.all (· ∉ unevenLetters) = true ∧ ¬ HasFinalSigma text)
    ⟨fun h => ⟨by simpa using h.1, h.2⟩, fun h => ⟨by simpa using h.even, h.noFinalSigma⟩⟩

/-- The small sigma in the middle of a word for that at its end. -/
def medialSigma (c : Char) : Char := if c = 'ς' then 'σ' else c

theorem trigrams_ofText {text : String} (h : EvenlyLowered text.toList) :
    trigrams (Key.ofText text) = trigrams text := by
  have hfinal : ¬ HasFinalSigmaFrom false text.toList := fun hf => h.noFinalSigma (hasFinalSigmaFrom_false.1 hf)
  have hletters : List.Forall₂ (Alike id) text.toList (Key.ofText text).toList :=
    Key.toList_ofText text ▸ alike_lowerFrom h.even (.inr hfinal)
  have hmap := map_trigrams hletters
  rw [map_id_trigrams, map_id_trigrams] at hmap
  exact hmap.symm

/-- If the letters are lowered one for one, final sigmas are all that lowering the whole text changes. -/
theorem map_trigrams_ofText {text : String} (h : ∀ c ∈ text.toList, c ∉ unevenLetters) :
    (trigrams (Key.ofText text)).map (Trigram.map medialSigma) = (trigrams text).map (Trigram.map medialSigma) :=
  (map_trigrams (Key.toList_ofText text ▸ alike_lowerFrom h (.inl (by decide)))).symm

theorem evenlyLowered_ofText (text : String) : EvenlyLowered (Key.ofText text).toList where
  even c hc huneven := by
    have hcapital : unevenLetters.all (fun c => lowerChar c != [c]) = true := by decide +kernel
    exact bne_iff_ne.1 (List.all_eq_true.1 hcapital c huneven) (lowerChar_of_mem_ofText hc)
  noFinalSigma := by
    rintro ⟨word, after, htext, -⟩
    have hsigma : 'Σ' ∈ (Key.ofText text).toList := htext ▸ List.mem_append_right _ (.head _)
    have hcapital : lowerChar 'Σ' ≠ ['Σ'] := by decide +kernel
    exact hcapital (lowerChar_of_mem_ofText hsigma)

theorem evenlyLowered_of_trigrams_ofText {text : String} (hforms : ∀ d ∈ wholeTextForms, d ∉ text.toList)
    (h : trigrams (Key.ofText text) = trigrams text) : EvenlyLowered text.toList where
  even c hc huneven := by
    simp only [unevenLetters, List.mem_cons, List.not_mem_nil, or_false] at huneven
    have hcapital (d : Char) (hd : d ∈ wholeTextForms) (hsigma : c ≠ 'Σ') (hform : d ∈ lowerChar c) : False :=
      hforms d hd (mem_of_mem_wholeTextForms hd (mem_ofText_of_mem_lowerChar hc hsigma hform) h)
    rcases huneven with rfl | rfl | rfl
    · exact dotted_not_mem h hc
    · exact hcapital '\uA7D3' (by decide) (by decide) (by decide +kernel)
    · exact hcapital '\uA7D5' (by decide) (by decide) (by decide +kernel)
  noFinalSigma hfinal := by
    have hmem : 'ς' ∈ (Key.ofText text).toList :=
      Key.toList_ofText text ▸ mem_lowerFrom_of_hasFinalSigmaFrom (hasFinalSigmaFrom_false.2 hfinal)
    exact hforms 'ς' (by decide) (mem_of_mem_wholeTextForms (by decide) hmem h)

/-- **Letter case.** Lowering a text as a whole does not change its trigrams, nor how similar it is to others, if it has
none of the uneven letters and no sigma of it is final. All keys are such texts, and but for texts that have one of the
three forms themselves, no others keep their trigrams. Without an uneven letter the trigrams may only differ in which of
the two small sigmas they have. -/
theorem trigrams_ignore_case :
    (∀ text : String, EvenlyLowered text.toList → trigrams (Key.ofText text) = trigrams text) ∧
    (∀ a b : String, EvenlyLowered a.toList → EvenlyLowered b.toList →
      similarity a b = similarity (Key.ofText a) (Key.ofText b)) ∧
    (∀ text : String, EvenlyLowered (Key.ofText text).toList) ∧
    (∀ text : String, (∀ d ∈ wholeTextForms, d ∉ text.toList) →
      (trigrams (Key.ofText text) = trigrams text ↔ EvenlyLowered text.toList)) ∧
    (∀ text : String, (∀ c ∈ text.toList, c ∉ unevenLetters) →
      (trigrams (Key.ofText text)).map (Trigram.map medialSigma) = (trigrams text).map (Trigram.map medialSigma)) :=
  ⟨fun _ => trigrams_ofText,
    fun _ _ ha hb => (similarity_congr (trigrams_ofText ha) (trigrams_ofText hb)).symm,
    evenlyLowered_ofText,
    fun _ hforms => ⟨evenlyLowered_of_trigrams_ofText hforms, trigrams_ofText⟩,
    fun _ => map_trigrams_ofText⟩

/-- The sigma in the middle of a word is not final, and the one that ends it is. -/
theorem trigrams_ignore_case_kosmas :
    trigrams (Key.ofText "ΚΟΣΜΑ ОРЛОВА") = trigrams "ΚΟΣΜΑ ОРЛОВА" ∧
    similarity "ΚΟΣΜΑ ОРЛОВА" "Anna-Maria" = similarity (Key.ofText "ΚΟΣΜΑ ОРЛОВА") (Key.ofText "Anna-Maria") ∧
    trigrams (Key.ofText "ΚΟΣΜΑΣ") ≠ trigrams "ΚΟΣΜΑΣ" ∧
    (trigrams (Key.ofText "ΚΟΣΜΑΣ")).map (Trigram.map medialSigma) =
      (trigrams "ΚΟΣΜΑΣ").map (Trigram.map medialSigma) := by
  obtain ⟨htrigrams, hsimilarity, -, hiff, hsigma⟩ := trigrams_ignore_case
  have heven : EvenlyLowered "ΚΟΣΜΑ ОРЛОВА".toList := by decide +kernel
  have hfinal : ¬ EvenlyLowered "ΚΟΣΜΑΣ".toList := by decide +kernel
  exact ⟨htrigrams _ heven, hsimilarity _ _ heven (by decide +kernel),
    fun h => hfinal ((hiff _ (by simp [wholeTextForms])).1 h), hsigma _ (by simp [unevenLetters])⟩

/-- The dot of the first letter is a separator in its key, two other capital letters are separators that become letters,
and the sigma that ends a word is not the one that trigrams have. The first one is less similar to its key than the key
is to itself. -/
theorem not_trigrams_ignore_case :
    trigrams (Key.ofText "İ") ≠ trigrams "İ" ∧ trigrams (Key.ofText "\uA7D2") ≠ trigrams "\uA7D2" ∧
    trigrams (Key.ofText "\uA7D4") ≠ trigrams "\uA7D4" ∧ trigrams (Key.ofText "ΑΣ") ≠ trigrams "ΑΣ" ∧
    similarity "İ" "i\u0307" ≠ similarity (Key.ofText "İ") (Key.ofText "i\u0307") := by
  have hne {a b : String} (h : (trigrams a).toList ≠ (trigrams b).toList) : trigrams a ≠ trigrams b := fun heq =>
    h (congrArg SortedSet.toList heq)
  exact ⟨hne (by decide +kernel), hne (by decide +kernel), hne (by decide +kernel), hne (by decide +kernel),
    by decide +kernel⟩

end Text

end StaffIndex
