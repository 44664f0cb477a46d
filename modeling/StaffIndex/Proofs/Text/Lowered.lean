import Mathlib
import StaffIndex.Proofs.Text.FinalSigma

/-!
# Texts in lower case

What lowering yields is in lower case: lowering it again changes nothing (`lowerCase_lowerCase`), so keys are their own
keys (`Key.ofText_ofText`, `Key.ofValues_ofValues`).

- No lower-case form in the table has itself another one. Rather than for each code point this is checked for every two
  runs of the table (`avoids_caseRuns`): the forms of the one lie before or after the other, or between its members.
- So all characters of a lowered text are their own lower-case forms (`lowerChar_of_mem_lowerFrom`). There is no capital
  sigma among them, and what stands around them does not matter any more (`lowerFrom_eq_self`).
-/

namespace StaffIndex

namespace Text

/-! ## The table -/

namespace CaseRun

/-- None of the run's lower-case forms is in the other run: they lie after it, before it, or between its members. -/
def avoids (r other : CaseRun) : Bool :=
  other.last.blt r.image || (r.image + (r.last - r.first)).blt other.first ||
    other.step.beq 2 && (r.step.beq 2 || r.last.beq r.first) && !(r.image % 2).beq (other.first % 2)

/-- The run of a single code point. -/
def single (n : Nat) : CaseRun := ⟨n, n, 1, n⟩

theorem image?_eq_some_iff {r : CaseRun} {n m : Nat} : r.image? n = some m ↔
    (r.first ≤ n ∧ n ≤ r.last ∧ (n - r.first) % r.step = 0) ∧ r.image + (n - r.first) = m := by
  unfold image?
  split <;> simp [*]

theorem image?_eq_none_of_avoids {r other : CaseRun} (h : r.avoids other = true) {n m : Nat} (hm : r.image? n = some m) :
    other.image? m = none := by
  obtain ⟨⟨hfirst, hlast, hstep⟩, rfl⟩ := image?_eq_some_iff.1 hm
  rw [image?, if_neg]
  rintro ⟨hfirst', hlast', hstep'⟩
  simp only [avoids, Bool.or_eq_true, Bool.and_eq_true, Bool.not_eq_true', ← Bool.not_eq_true, Nat.blt_eq,
    Nat.beq_eq] at h
  rcases h with (hafter | hbefore) | ⟨⟨htwo, htwo' | hone⟩, hparity⟩
  · omega
  · omega
  · rw [htwo] at hstep'
    rw [htwo'] at hstep
    omega
  · rw [htwo] at hstep'
    omega

end CaseRun

theorem avoids_caseRuns : ∀ r ∈ caseRuns, ∀ other ∈ caseRuns, r.avoids other = true := by
  have h : caseRuns.all (fun r => caseRuns.all r.avoids) = true := by decide +kernel
  simpa only [List.all_eq_true] using h

/-- A code point is in none of the runs, or its lower-case form is that of a run. -/
theorem lowerCode_cases (n : Nat) :
    ((∀ r ∈ caseRuns, r.image? n = none) ∧ lowerCode n = n) ∨ ∃ r ∈ caseRuns, r.image? n = some (lowerCode n) := by
  rw [lowerCode]
  cases h : caseRuns.findSome? (·.image? n) with
  | none => exact .inl ⟨List.findSome?_eq_none_iff.1 h, rfl⟩
  | some m => exact .inr (List.exists_of_findSome?_eq_some h)

theorem lowerCode_of_forall_none {n : Nat} (h : ∀ r ∈ caseRuns, r.image? n = none) : lowerCode n = n := by
  rw [lowerCode, List.findSome?_eq_none_iff.2 h]
  rfl

theorem lowerCode_lowerCode (n : Nat) : lowerCode (lowerCode n) = lowerCode n := by
  rcases lowerCode_cases n with ⟨-, hn⟩ | ⟨r, hr, hm⟩
  · rw [hn, hn]
  · exact lowerCode_of_forall_none fun other ho => CaseRun.image?_eq_none_of_avoids (avoids_caseRuns r hr other ho) hm

theorem CaseRun.image?_ne_of_avoids {r : CaseRun} {m : Nat} (h : r.avoids (.single m) = true) (n : Nat) :
    r.image? n ≠ some m := by
  intro himage
  have hnone := image?_eq_none_of_avoids h himage
  simp [image?, single] at hnone

/-- What all runs avoid is the lower-case form of itself alone. -/
theorem eq_of_lowerCode_eq {n m : Nat} (hm : ∀ r ∈ caseRuns, r.avoids (.single m) = true) (h : lowerCode n = m) :
    n = m := by
  rcases lowerCode_cases n with ⟨-, hn⟩ | ⟨r, hr, himage⟩
  · exact hn.symm.trans h
  · rw [h] at himage
    exact absurd himage (CaseRun.image?_ne_of_avoids (hm r hr) n)

/-! ## Characters -/

/-- Only the number of a character makes that character, and zero is made of all that are no numbers of characters. -/
theorem toNat_ofNat_of_ne {n : Nat} (h : (Char.ofNat n).toNat ≠ 0) : (Char.ofNat n).toNat = n := by
  rw [Char.toNat_ofNat] at h ⊢
  exact if_pos (Classical.byContradiction fun hn => h (if_neg hn))

theorem lowerChar_of_ne {c : Char} (h : c ≠ 'İ') : lowerChar c = [Char.ofNat (lowerCode c.toNat)] := if_neg h

/-- A character that all runs avoid is the lower-case form of itself alone. -/
theorem eq_of_lowerChar_eq {c d : Char} (hd : ∀ r ∈ caseRuns, r.avoids (.single d.toNat) = true) (hnull : d.toNat ≠ 0)
    (h : lowerChar c = [d]) : c = d := by
  have hc : c ≠ 'İ' := by rintro rfl; cases h
  rw [lowerChar_of_ne hc, List.cons.injEq] at h
  have hcode : lowerCode c.toNat = d.toNat := by
    rw [← h.1, toNat_ofNat_of_ne (h.1 ▸ hnull)]
  exact Char.toNat_inj.1 (eq_of_lowerCode_eq hd hcode)

theorem eq_of_mem_lowerChar {c d : Char} (hd : ∀ r ∈ caseRuns, r.avoids (.single d.toNat) = true) (hnull : d.toNat ≠ 0)
    (hdotted : d ∉ lowerChar 'İ') (h : d ∈ lowerChar c) : c = d := by
  have hc : c ≠ 'İ' := by
    rintro rfl
    exact hdotted h
  rw [lowerChar_of_ne hc, List.mem_singleton] at h
  exact eq_of_lowerChar_eq hd hnull (by rw [lowerChar_of_ne hc, ← h])

/-- The dotted capital I is not the lower-case form of anything. -/
theorem lowerChar_ne_dotted (c : Char) : lowerChar c ≠ ['İ'] := by
  intro h
  have hc : c = 'İ' := eq_of_lowerChar_eq (by decide +kernel) (by decide) h
  subst hc
  cases h

/-- A lower-case form is its own lower-case form. -/
theorem lowerChar_of_mem_lowerChar {c d : Char} (h : d ∈ lowerChar c) : lowerChar d = [d] := by
  by_cases hc : c = 'İ'
  · subst hc
    rcases List.mem_pair.1 h with rfl | rfl <;> decide +kernel
  · rw [lowerChar_of_ne hc, List.mem_singleton] at h
    by_cases hnull : d.toNat = 0
    · rw [show d = '\x00' from Char.toNat_inj.1 hnull]
      decide +kernel
    · have hd : d ≠ 'İ' := fun heq => lowerChar_ne_dotted c (by rw [lowerChar_of_ne hc, ← h, heq])
      have hcode : d.toNat = lowerCode c.toNat := by
        rw [h] at hnull ⊢
        exact toNat_ofNat_of_ne hnull
      rw [lowerChar_of_ne hd, hcode, lowerCode_lowerCode, ← h]

/-! ## Texts -/

theorem lowerChar_of_mem_lowerFrom {afterCased : Bool} {text : List Char} {d : Char} (h : d ∈ lowerFrom afterCased text) :
    lowerChar d = [d] := by
  induction text generalizing afterCased with
  | nil => cases h
  | cons c text ih =>
    rw [lowerFrom_cons, List.mem_append] at h
    rcases h with h | h
    · unfold lowerAt at h
      split at h
      · -- A sigma becomes one of two letters, and both are in lower case.
        rw [List.mem_singleton] at h
        split at h <;> subst h <;> decide +kernel
      · exact lowerChar_of_mem_lowerChar h
    · exact ih h

/-- A text of lower-case characters stays as it is, whatever stands before it. -/
theorem lowerFrom_eq_self {afterCased : Bool} {text : List Char} (h : ∀ d ∈ text, lowerChar d = [d]) :
    lowerFrom afterCased text = text := by
  induction text generalizing afterCased with
  | nil => rfl
  | cons c text ih =>
    obtain ⟨hc, htext⟩ := List.forall_mem_cons.1 h
    have hsigma : c ≠ 'Σ' := by
      rintro rfl
      revert hc
      decide +kernel
    rw [lowerFrom_cons, lowerAt, if_neg hsigma, hc, ih htext]
    rfl

/-- Lowering twice is lowering once. -/
theorem lowerCase_lowerCase (text : String) : lowerCase (lowerCase text) = lowerCase text := by
  rw [lowerCase, lowerCase, String.toList_ofList, lowerFrom_eq_self fun d => lowerChar_of_mem_lowerFrom]

end Text

/-! ## Keys -/

namespace Key

/-- A key is its own key. -/
theorem ofText_ofText (text : String) : ofText (ofText text) = ofText text := Text.lowerCase_lowerCase text

/-- Keys are the keys of themselves. -/
theorem ofText_of_mem_ofValues {key : String} {values : List String} (h : key ∈ ofValues values) : ofText key = key := by
  obtain ⟨v, -, rfl⟩ := mem_ofValues.1 h
  exact ofText_ofText v

theorem ofValues_ofValues (values : List String) : ofValues (ofValues values) = ofValues values := by
  have hkeys : (ofValues values).map ofText = ofValues values :=
    (List.map_congr_left fun _ => ofText_of_mem_ofValues).trans (List.map_id _)
  rw [ofValues, hkeys, eraseDups_of_nodup (nodup_ofValues values)]

end Key

end StaffIndex
