import StaffIndex.Proofs.Text.Lowered
import StaffIndex.Trigram

/-!
# Letters and separators in lower case

Lower-case forms are word characters just if the letters themselves are, but for three letters
(`isWordChar_of_lowerChar`). The capital I with a dot falls into a letter and a separator. The other two are separators
in the table of word characters, which is older than the table of lower-case forms, and their forms are letters.

- For each run of the case table its members and their forms are looked up in the table of word characters
  (`keepsKind_caseRuns`). As a list of ranges that table is too long to go through for each of them, so the look-up is of
  a bit in a number (`testBit_mask`).
- Three letters are forms of other word characters only where a text is lowered as a whole
  (`eq_of_mem_wholeTextForms`).
-/

namespace StaffIndex.Text

/-- The letters that are word characters while their lower-case forms are not all, or the other way round. -/
def unevenLetters : List Char := ['İ', '\uA7D2', '\uA7D4']

/-! ## The tables -/

/-- The number whose bits tell which code points lie in the ranges. -/
def mask (ranges : List (Nat × Nat)) : Nat :=
  ranges.foldr (fun r m => ((2 ^ (r.2 + 1 - r.1) - 1) <<< r.1) ||| m) 0

theorem testBit_mask (ranges : List (Nat × Nat)) (n : Nat) : (mask ranges).testBit n = inRanges ranges n := by
  induction ranges with
  | nil => simp [mask, inRanges]
  | cons r ranges ih =>
    have hbit : ((2 ^ (r.2 + 1 - r.1) - 1) <<< r.1).testBit n = (decide (r.1 ≤ n) && decide (n ≤ r.2)) := by
      rw [Nat.testBit_shiftLeft, Nat.testBit_two_pow_sub_one, Bool.eq_iff_iff]
      simp only [Bool.and_eq_true, decide_eq_true_eq]
      omega
    rw [mask, List.foldr_cons, Nat.testBit_or, hbit, inRanges, List.any_cons]
    exact congrArg _ ih

namespace CaseRun

/-- All lower-case forms in the run are code points of characters. -/
def valid (r : CaseRun) : Bool :=
  (r.image + (r.last - r.first)).blt 0xD800 || Nat.blt 0xDFFF r.image && (r.image + (r.last - r.first)).blt 0x110000

/-- But for the uneven letters, they are word characters just if the members of the run are. -/
def keepsKind (r : CaseRun) : Bool :=
  (List.range (r.last - r.first + 1)).all fun k =>
    !(k % r.step).beq 0 || (unevenLetters.map Char.toNat).contains (r.first + k) ||
      (mask wordRanges).testBit (r.first + k) == (mask wordRanges).testBit (r.image + k)

theorem isValidChar_of_image? {r : CaseRun} (h : r.valid = true) {n m : Nat} (hm : r.image? n = some m) :
    m.isValidChar := by
  obtain ⟨⟨hfirst, hlast, -⟩, rfl⟩ := image?_eq_some_iff.1 hm
  simp only [valid, Bool.or_eq_true, Bool.and_eq_true, Nat.blt_eq] at h
  unfold Nat.isValidChar
  omega

theorem inRanges_image? {r : CaseRun} (h : r.keepsKind = true) {n m : Nat} (hm : r.image? n = some m)
    (hn : n ∉ unevenLetters.map Char.toNat) : inRanges wordRanges m = inRanges wordRanges n := by
  obtain ⟨⟨hfirst, hlast, hstep⟩, rfl⟩ := image?_eq_some_iff.1 hm
  have hmember := List.all_eq_true.1 h (n - r.first) (List.mem_range.2 (by omega))
  rw [Nat.add_sub_cancel' hfirst, testBit_mask, testBit_mask, hstep, Bool.or_eq_true, Bool.or_eq_true] at hmember
  rcases hmember with (hskipped | huneven) | hsame
  · cases hskipped
  · exact absurd (List.contains_iff_mem.1 huneven) hn
  · exact (beq_iff_eq.1 hsame).symm

end CaseRun

theorem valid_caseRuns : caseRuns.all CaseRun.valid = true := by decide +kernel

theorem keepsKind_caseRuns : caseRuns.all CaseRun.keepsKind = true := by decide +kernel

/-! ## Characters -/

theorem ne_dotted_of_not_mem_unevenLetters {c : Char} (hc : c ∉ unevenLetters) : c ≠ 'İ' := by
  rintro rfl
  exact hc (.head _)

/-- The lower-case form of a letter is of its kind. -/
theorem isWordChar_of_lowerChar {c d : Char} (hc : c ∉ unevenLetters) (h : lowerChar c = [d]) :
    isWordChar d = isWordChar c := by
  have hcode : c.toNat ∉ unevenLetters.map Char.toNat := fun hmem => by
    obtain ⟨e, he, heq⟩ := List.mem_map.1 hmem
    exact hc (Char.toNat_inj.1 heq ▸ he)
  rw [lowerChar_of_ne (ne_dotted_of_not_mem_unevenLetters hc), List.cons.injEq] at h
  rw [← h.1, isWordChar, isWordChar]
  rcases lowerCode_cases c.toNat with ⟨-, hsame⟩ | ⟨r, hr, himage⟩
  · rw [hsame, Char.ofNat_toNat]
  · rw [Char.toNat_ofNat, if_pos (CaseRun.isValidChar_of_image? (List.all_eq_true.1 valid_caseRuns r hr) himage)]
    exact CaseRun.inRanges_image? (List.all_eq_true.1 keepsKind_caseRuns r hr) himage hcode

/-! ## Forms of separators and of sigmas -/

/-- The forms of the two uneven letters that are separators, and of a final sigma. -/
def wholeTextForms : List Char := ['\uA7D3', '\uA7D5', 'ς']

/-- Where each run avoids a small letter, or has it as the form of the code point right before it, only the capital one
there is lowered to it. -/
theorem eq_or_eq_of_mem_lowerChar (capital : Char) {small c : Char} (hnull : small.toNat ≠ 0)
    (hdotted : small ∉ lowerChar 'İ') (hnext : capital.toNat + 1 = small.toNat)
    (hruns : caseRuns.all (fun r => r.avoids (.single small.toNat) || r.image.beq (r.first + 1)) = true)
    (h : small ∈ lowerChar c) : c = capital ∨ c = small := by
  have hc : c ≠ 'İ' := by
    rintro rfl
    exact hdotted h
  rw [lowerChar_of_ne hc, List.mem_singleton] at h
  have hcode : lowerCode c.toNat = small.toNat := by
    rw [h] at hnull ⊢
    exact (toNat_ofNat_of_ne hnull).symm
  rcases lowerCode_cases c.toNat with ⟨-, hsame⟩ | ⟨r, hr, himage⟩
  · exact .inr (Char.toNat_inj.1 (hsame.symm.trans hcode))
  · rw [hcode] at himage
    have hrun := List.all_eq_true.1 hruns r hr
    rw [Bool.or_eq_true, Nat.beq_eq] at hrun
    rcases hrun with havoids | hstep
    · exact absurd himage (CaseRun.image?_ne_of_avoids havoids _)
    · obtain ⟨⟨hfirst, -, -⟩, hsum⟩ := CaseRun.image?_eq_some_iff.1 himage
      exact .inl (Char.toNat_inj.1 (by omega))

/-- By themselves, no other word characters have these forms. -/
theorem eq_of_mem_wholeTextForms {c d : Char} (hd : d ∈ wholeTextForms) (hc : isWordChar c = true)
    (h : d ∈ lowerChar c) : c = d := by
  have hseparators : isWordChar '\uA7D2' = false ∧ isWordChar '\uA7D4' = false := by decide +kernel
  simp only [wholeTextForms, List.mem_cons, List.not_mem_nil, or_false] at hd
  rcases hd with rfl | rfl | rfl
  · rcases eq_or_eq_of_mem_lowerChar '\uA7D2' (by decide) (by decide) rfl (by decide +kernel) h with rfl | rfl
    · rw [hseparators.1] at hc
      cases hc
    · rfl
  · rcases eq_or_eq_of_mem_lowerChar '\uA7D4' (by decide) (by decide) rfl (by decide +kernel) h with rfl | rfl
    · rw [hseparators.2] at hc
      cases hc
    · rfl
  · exact eq_of_mem_lowerChar (by decide +kernel) (by decide) (by decide) h

end StaffIndex.Text
