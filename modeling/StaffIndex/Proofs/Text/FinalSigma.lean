import StaffIndex.Key

/-!
# Lower case of a beginning

A text is lowered character by character, except that a capital sigma looks at the text behind it. So the lower-case
form of a beginning of a text begins that of the whole text, unless the cut parts a sigma from the letter that keeps it
from being final (`ofText_prefix_iff`).

- Looking on for a character with case, the text behind counts just if all of the beginning is case-ignorable
  (`startsCased_append`).
- The induction is on the beginning and carries along what stands before it as far as a sigma can see: whether the last
  character that is not case-ignorable has case (`casedAfter_false`).
- Likewise for a sigma that is final in the text itself (`mem_lowerFrom_of_hasFinalSigmaFrom`).
-/

namespace StaffIndex.Text

/-- A sigma ends the word before the cut and is followed by case-ignorable characters only, and the word goes on after
the cut. -/
def PartsSigma (before after : List Char) : Prop :=
  ∃ word ignored, before = word ++ 'Σ' :: ignored ∧ (∀ c ∈ ignored, isCaseIgnorable c = true) ∧
    startsCased word.reverse = true ∧ startsCased after = true

/-! ## What a sigma sees -/

theorem startsCased_cons (c : Char) (text : List Char) :
    startsCased (c :: text) = if isCaseIgnorable c then startsCased text else isCased c := by
  unfold startsCased
  rw [List.dropWhile_cons]
  split <;> rfl

theorem startsCased_append (before after : List Char) : startsCased (before ++ after) =
    if before.all isCaseIgnorable then startsCased after else startsCased before := by
  induction before with
  | nil => rfl
  | cons c before ih =>
    rw [List.cons_append, startsCased_cons, startsCased_cons, ih, List.all_cons]
    by_cases hc : isCaseIgnorable c = true <;> simp [hc]

theorem startsCased_of_ignorable {text : List Char} (h : ∀ c ∈ text, isCaseIgnorable c = true) :
    startsCased text = false := by
  have hnil := startsCased_append text []
  rw [if_pos (List.all_eq_true.2 h), List.append_nil] at hnil
  exact hnil

/-- What `afterCased` is after the text. -/
def casedAfter (afterCased : Bool) (text : List Char) : Bool :=
  text.foldl (fun cased c => if isCaseIgnorable c then cased else isCased c) afterCased

theorem casedAfter_false (text : List Char) : casedAfter false text = startsCased text.reverse := by
  rw [casedAfter, ← List.foldr_reverse]
  induction text.reverse with
  | nil => rfl
  | cons c text ih => rw [List.foldr_cons, ih, startsCased_cons]

/-! ## One character -/

/-- The lower-case form of a character where the text goes on as it does. -/
def lowerAt (afterCased : Bool) (c : Char) (text : List Char) : List Char :=
  if c = 'Σ' then [if afterCased && !startsCased text then 'ς' else 'σ'] else lowerChar c

theorem lowerFrom_cons (afterCased : Bool) (c : Char) (text : List Char) : lowerFrom afterCased (c :: text) =
    lowerAt afterCased c text ++ lowerFrom (casedAfter afterCased [c]) text := rfl

/-- The character is a sigma, and it is final only as long as the text is cut off. -/
def SigmaParted (afterCased : Bool) (c : Char) (before after : List Char) : Prop :=
  c = 'Σ' ∧ (∀ x ∈ before, isCaseIgnorable x = true) ∧ afterCased = true ∧ startsCased after = true

theorem lowerAt_append {afterCased : Bool} {c : Char} {before after : List Char}
    (h : ¬ SigmaParted afterCased c before after) :
    lowerAt afterCased c (before ++ after) = lowerAt afterCased c before := by
  unfold lowerAt
  by_cases hc : c = 'Σ'
  · rw [if_pos hc, if_pos hc, startsCased_append]
    by_cases hb : before.all isCaseIgnorable = true
    · have hall := List.all_eq_true.1 hb
      rw [if_pos hb, startsCased_of_ignorable hall]
      cases hcased : afterCased with
      | false => rfl
      | true =>
        cases hafter : startsCased after with
        | false => rfl
        | true => exact absurd ⟨hc, hall, hcased, hafter⟩ h
    · rw [if_neg hb]
  · rw [if_neg hc, if_neg hc]

theorem lowerAt_of_parted {afterCased : Bool} {c : Char} {before after : List Char}
    (h : SigmaParted afterCased c before after) :
    lowerAt afterCased c before = ['ς'] ∧ lowerAt afterCased c (before ++ after) = ['σ'] := by
  obtain ⟨rfl, hb, rfl, hafter⟩ := h
  have hcut : startsCased before = false := startsCased_of_ignorable hb
  have hwhole : startsCased (before ++ after) = true := by
    rw [startsCased_append, if_pos (List.all_eq_true.2 hb), hafter]
  constructor
  · rw [lowerAt, if_pos rfl, hcut]
    rfl
  · rw [lowerAt, if_pos rfl, hwhole]
    rfl

/-! ## Whole texts -/

/-- Somewhere in the text there is a sigma with something true of what stands before it, as far as it sees that, and of
the text behind it. -/
def SigmaWhere (P : Bool → List Char → Prop) (afterCased : Bool) (text : List Char) : Prop :=
  ∃ word after, text = word ++ 'Σ' :: after ∧ P (casedAfter afterCased word) after

theorem sigmaWhere_nil (P : Bool → List Char → Prop) (afterCased : Bool) : ¬ SigmaWhere P afterCased [] := by
  rintro ⟨word, after, h, -⟩
  cases word <;> cases h

theorem sigmaWhere_cons {P : Bool → List Char → Prop} {afterCased : Bool} {c : Char} {text : List Char} :
    SigmaWhere P afterCased (c :: text) ↔
      (c = 'Σ' ∧ P afterCased text) ∨ SigmaWhere P (casedAfter afterCased [c]) text := by
  constructor
  · rintro ⟨word, after, h, hp⟩
    cases word with
    | nil =>
      cases h
      exact .inl ⟨rfl, hp⟩
    | cons d word =>
      cases h
      exact .inr ⟨word, after, rfl, hp⟩
  · rintro (⟨rfl, hp⟩ | ⟨word, after, rfl, hp⟩)
    · exact ⟨[], text, rfl, hp⟩
    · exact ⟨c :: word, after, rfl, hp⟩

/-- A sigma is parted by the cut in a text that comes after a character with case, or not. -/
def PartsSigmaFrom (afterCased : Bool) (before after : List Char) : Prop :=
  ∃ word ignored, before = word ++ 'Σ' :: ignored ∧ SigmaParted (casedAfter afterCased word) 'Σ' ignored after

theorem partsSigmaFrom_iff {afterCased : Bool} {before after : List Char} : PartsSigmaFrom afterCased before after ↔
    SigmaWhere (fun cased ignored => SigmaParted cased 'Σ' ignored after) afterCased before := Iff.rfl

theorem partsSigmaFrom_nil (afterCased : Bool) (after : List Char) : ¬ PartsSigmaFrom afterCased [] after := by
  rw [partsSigmaFrom_iff]
  exact sigmaWhere_nil _ afterCased

theorem partsSigmaFrom_cons {afterCased : Bool} {c : Char} {before after : List Char} :
    PartsSigmaFrom afterCased (c :: before) after ↔
      SigmaParted afterCased c before after ∨ PartsSigmaFrom (casedAfter afterCased [c]) before after := by
  rw [partsSigmaFrom_iff, partsSigmaFrom_iff, sigmaWhere_cons]
  refine or_congr_left ⟨?_, fun h => ⟨h.1, h.1 ▸ h⟩⟩
  rintro ⟨rfl, h⟩
  exact h

theorem lowerFrom_prefix_iff (afterCased : Bool) (before after : List Char) :
    lowerFrom afterCased before <+: lowerFrom afterCased (before ++ after) ↔
      ¬ PartsSigmaFrom afterCased before after := by
  induction before generalizing afterCased with
  | nil => exact iff_of_true List.nil_prefix (partsSigmaFrom_nil afterCased after)
  | cons c before ih =>
    rw [List.cons_append, lowerFrom_cons, lowerFrom_cons, partsSigmaFrom_cons, not_or]
    by_cases hparted : SigmaParted afterCased c before after
    · obtain ⟨hcut, hwhole⟩ := lowerAt_of_parted hparted
      rw [hcut, hwhole]
      refine iff_of_false (fun h => ?_) fun h => h.1 hparted
      have heq : 'ς' = 'σ' := (List.cons_prefix_cons.1 h).1
      exact absurd heq (by decide)
    · rw [lowerAt_append hparted, List.prefix_append_right_inj, ih]
      exact ⟨fun h => ⟨hparted, h⟩, fun h => h.2⟩

theorem partsSigmaFrom_false {before after : List Char} :
    PartsSigmaFrom false before after ↔ PartsSigma before after := by
  simp only [PartsSigmaFrom, SigmaParted, PartsSigma, casedAfter_false, true_and]

instance (afterCased : Bool) (c : Char) (before after : List Char) :
    Decidable (SigmaParted afterCased c before after) :=
  decidable_of_iff (c = 'Σ' ∧ before.all isCaseIgnorable = true ∧ afterCased = true ∧ startsCased after = true)
    (by rw [List.all_eq_true]; rfl)

instance decidablePartsSigmaFrom (afterCased : Bool) :
    (before after : List Char) → Decidable (PartsSigmaFrom afterCased before after)
  | [], after => .isFalse (partsSigmaFrom_nil afterCased after)
  | c :: before, after =>
    have := decidablePartsSigmaFrom (casedAfter afterCased [c]) before after
    decidable_of_iff _ partsSigmaFrom_cons.symm

instance (before after : List Char) : Decidable (PartsSigma before after) :=
  decidable_of_iff _ partsSigmaFrom_false

/-- The key of a beginning of a text begins the key of the text, unless the cut parts a sigma. -/
theorem ofText_prefix_iff {text start : String} {rest : List Char} (h : text.toList = start.toList ++ rest) :
    (Key.ofText start).toList <+: (Key.ofText text).toList ↔ ¬ PartsSigma start.toList rest := by
  rw [Key.toList_ofText, Key.toList_ofText, h, lowerFrom_prefix_iff, partsSigmaFrom_false]

/-! ## Sigmas that are final -/

/-- The character is a sigma with case before it and none after it. -/
def IsFinalSigma (afterCased : Bool) (c : Char) (text : List Char) : Prop :=
  c = 'Σ' ∧ afterCased = true ∧ startsCased text = false

theorem lowerAt_of_isFinalSigma {afterCased : Bool} {c : Char} {text : List Char} (h : IsFinalSigma afterCased c text) :
    lowerAt afterCased c text = ['ς'] := by
  obtain ⟨rfl, rfl, hafter⟩ := h
  rw [lowerAt, if_pos rfl, hafter]
  rfl

/-- Other characters are lowered as if they stood alone. -/
theorem lowerAt_of_not_isFinalSigma {afterCased : Bool} {c : Char} {text : List Char}
    (h : ¬ IsFinalSigma afterCased c text) : lowerAt afterCased c text = lowerChar c := by
  unfold lowerAt
  by_cases hc : c = 'Σ'
  · have hcapital : lowerChar 'Σ' = ['σ'] := by decide +kernel
    rw [if_pos hc, if_neg, hc, hcapital]
    intro hfinal
    rw [Bool.and_eq_true, Bool.not_eq_true'] at hfinal
    exact h ⟨hc, hfinal⟩
  · rw [if_neg hc]

/-- A sigma of the text is final. -/
def HasFinalSigma (text : List Char) : Prop :=
  ∃ word after, text = word ++ 'Σ' :: after ∧ startsCased word.reverse = true ∧ startsCased after = false

/-- The same in a text that comes after a character with case, or not. -/
def HasFinalSigmaFrom (afterCased : Bool) (text : List Char) : Prop :=
  SigmaWhere (fun cased after => IsFinalSigma cased 'Σ' after) afterCased text

theorem hasFinalSigmaFrom_false {text : List Char} : HasFinalSigmaFrom false text ↔ HasFinalSigma text := by
  simp only [HasFinalSigmaFrom, SigmaWhere, IsFinalSigma, HasFinalSigma, casedAfter_false, true_and]

theorem hasFinalSigmaFrom_nil (afterCased : Bool) : ¬ HasFinalSigmaFrom afterCased [] := sigmaWhere_nil _ afterCased

theorem hasFinalSigmaFrom_cons {afterCased : Bool} {c : Char} {text : List Char} :
    HasFinalSigmaFrom afterCased (c :: text) ↔
      IsFinalSigma afterCased c text ∨ HasFinalSigmaFrom (casedAfter afterCased [c]) text := by
  rw [HasFinalSigmaFrom, HasFinalSigmaFrom, sigmaWhere_cons]
  refine or_congr_left ⟨?_, fun h => ⟨h.1, h.1 ▸ h⟩⟩
  rintro ⟨rfl, h⟩
  exact h

theorem mem_lowerFrom_of_hasFinalSigmaFrom {afterCased : Bool} {text : List Char}
    (h : HasFinalSigmaFrom afterCased text) : 'ς' ∈ lowerFrom afterCased text := by
  induction text generalizing afterCased with
  | nil => exact absurd h (hasFinalSigmaFrom_nil afterCased)
  | cons c text ih =>
    rw [lowerFrom_cons, List.mem_append]
    rcases hasFinalSigmaFrom_cons.1 h with hfinal | h
    · rw [lowerAt_of_isFinalSigma hfinal]
      exact .inl (.head _)
    · exact .inr (ih h)

instance (afterCased : Bool) (c : Char) (text : List Char) : Decidable (IsFinalSigma afterCased c text) :=
  inferInstanceAs (Decidable (c = 'Σ' ∧ afterCased = true ∧ startsCased text = false))

instance decidableHasFinalSigmaFrom (afterCased : Bool) : (text : List Char) →
    Decidable (HasFinalSigmaFrom afterCased text)
  | [] => .isFalse (hasFinalSigmaFrom_nil afterCased)
  | c :: text =>
    have := decidableHasFinalSigmaFrom (casedAfter afterCased [c]) text
    decidable_of_iff _ hasFinalSigmaFrom_cons.symm

instance (text : List Char) : Decidable (HasFinalSigma text) := decidable_of_iff _ hasFinalSigmaFrom_false

end StaffIndex.Text
