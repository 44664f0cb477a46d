import StaffIndex.Proofs.Binary64.Rounding

/-!
# Sums without a sign

Zero, the positive numbers and infinity are closed under addition (`NonNegative.add`) and under division by positive
numbers (`NonNegative.div`), and none of them is undefined (`NonNegative.isNaN`).
-/

namespace StaffIndex.Binary64

open Float.Model Float.Model.UnpackedFloat

/-- The value is defined and has no sign: it is zero, positive or infinite. -/
def Unsigned : UnpackedFloat → Prop
  | .zero s => s = .positive
  | .finite s _ _ _ => s = .positive
  | .infinity s => s = .positive
  | .notANumber => False

theorem Full.unsigned {low high : Int} {u : UnpackedFloat} (h : Full .positive low high u) : Unsigned u := by
  obtain ⟨m, e, hpos, rfl, -⟩ := h
  rfl

theorem unsigned_unpack_packComponents {e : BitVec 11} {m : BitVec 52} (h : e ≠ -1#11 ∨ m = 0#52) :
    Unsigned (UnpackedFloat.unpack .binary64 (packComponents .binary64 .positive e m)) := by
  simp only [UnpackedFloat.unpack, unpackMantissa_packComponents, unpackExponent_packComponents, unpackSign_packComponents,
    Sign.ofBitVec_toBitVec]
  split
  · next he => rw [if_pos (h.resolve_left (· he))]; rfl
  · split
    · split <;> rfl
    · rfl

theorem unsigned_unpack_pack {u : UnpackedFloat} (h : Unsigned u) : Unsigned (Float.Model.pack u).unpack := by
  change Unsigned (UnpackedFloat.unpack .binary64 (UnpackedFloat.pack .binary64 u))
  cases u with
  | notANumber => exact h.elim
  | infinity s => cases h; rfl
  | zero s => cases h; rfl
  | finite s m e hpos =>
    cases h
    simp only [UnpackedFloat.pack]
    split
    · exact unsigned_unpack_packComponents (.inr rfl)
    · next hb =>
      split
      · refine unsigned_unpack_packComponents (.inl fun heq => ?_)
        have hnat := congrArg BitVec.toNat heq
        simp only [BitVec.toNat_ofNat, BitVec.neg_one_eq_allOnes, BitVec.toNat_allOnes] at hnat
        omega
      · exact unsigned_unpack_packComponents (.inl (by decide))

theorem unsigned_roundWithAccuracy (m : Nat) (e : Int) (a : Accuracy) :
    Unsigned (roundWithAccuracy .binary64 .positive m e a) := by
  simp only [roundWithAccuracy]
  split <;> rfl

/-- The sum of two positive numbers is rounded from a positive significand. -/
theorem unsigned_add_finite {m₁ m₂ : Nat} {e₁ e₂ : Int} (h₁ : 0 < m₁) (h₂ : 0 < m₂) :
    Unsigned (UnpackedFloat.add .binary64 (.finite .positive m₁ e₁ h₁) (.finite .positive m₂ e₂ h₂)) := by
  have hpos : (0 : Int) < (m₁ <<< (e₁ - min e₁ e₂).toNat : Nat) + (m₂ <<< (e₂ - min e₁ e₂).toNat : Nat) :=
    Int.add_pos_of_pos_of_nonneg (Int.natCast_pos.2 (Nat.shiftLeft_pos_iff.2 h₁)) (Int.natCast_nonneg _)
  simp only [UnpackedFloat.add, decreaseExponent, UnpackedFloat.normalize, Sign.apply]
  rw [Int.compare_eq_gt.2 hpos]
  exact unsigned_roundWithAccuracy _ _ _

theorem unsigned_add {u v : UnpackedFloat} (hu : Unsigned u) (hv : Unsigned v) :
    Unsigned (UnpackedFloat.add .binary64 u v) := by
  cases u with
  | notANumber => exact hu.elim
  | infinity s =>
    cases hu
    cases v with
    | notANumber => exact hv.elim
    | infinity t => cases hv; rfl
    | zero t => rfl
    | finite t m e h => rfl
  | zero s =>
    cases hu
    cases v with
    | notANumber => exact hv.elim
    | infinity t => cases hv; rfl
    | zero t => cases hv; rfl
    | finite t m e h => cases hv; rfl
  | finite s m e h =>
    cases hu
    cases v with
    | notANumber => exact hv.elim
    | infinity t => cases hv; rfl
    | zero t => rfl
    | finite t m' e' h' => cases hv; exact unsigned_add_finite h h'

theorem unsigned_div {u : UnpackedFloat} {m : Nat} {e : Int} (hu : Unsigned u) (h : 0 < m) :
    Unsigned (UnpackedFloat.div .binary64 u (.finite .positive m e h)) := by
  cases u with
  | notANumber => exact hu.elim
  | infinity s => cases hu; rfl
  | zero s => cases hu; rfl
  | finite s m' e' h' => cases hu; exact unsigned_roundWithAccuracy _ _ _

/-! ## Numbers -/

/-- Zero without a sign, a positive number, or infinity. -/
def NonNegative (x : Float) : Prop := Unsigned x.toModel.unpack

namespace NonNegative

variable {x y : Float}

theorem zero : NonNegative 0.0 := rfl

theorem add (hx : NonNegative x) (hy : NonNegative y) : NonNegative (x + y) := unsigned_unpack_pack (unsigned_add hx hy)

theorem div (hx : NonNegative x) (hy : Normal y) : NonNegative (x / y) := by
  obtain ⟨m, e, h, hu, -⟩ := hy
  change Unsigned (Float.Model.pack (UnpackedFloat.div .binary64 x.toModel.unpack y.toModel.unpack)).unpack
  rw [hu]
  exact unsigned_unpack_pack (unsigned_div hx h)

theorem ofNat {n : Nat} (hn : n < 2 ^ 64) : NonNegative (Float.ofNat n) := by
  by_cases h : n = 0
  · rw [h]
    rfl
  · exact (normal_ofNat h hn).unsigned

theorem isNaN (h : NonNegative x) : x.isNaN = false := by
  change x.toModel.unpack.isNaN = false
  unfold NonNegative at h
  cases hu : x.toModel.unpack with
  | notANumber => rw [hu] at h; exact h.elim
  | infinity s => rfl
  | zero s => rfl
  | finite s m e hm => rfl

theorem of_pos (h : 0.0 < x) : NonNegative x := by
  have hlt : UnpackedFloat.lt (.zero .positive) x.toModel.unpack = true := of_decide_eq_true h
  unfold NonNegative
  revert hlt
  cases x.toModel.unpack with
  | notANumber => intro hlt; cases hlt
  | infinity s => cases s <;> intro hlt <;> first | rfl | cases hlt
  | zero s => cases s <;> intro hlt <;> cases hlt
  | finite s m e hm => cases s <;> intro hlt <;> first | rfl | cases hlt

end NonNegative

/-- What is at least zero is defined. The zero with a sign is, too. -/
theorem isNaN_of_zero_le {x : Float} (h : 0 ≤ x) : x.isNaN = false := by
  have hle : UnpackedFloat.le (.zero .positive) x.toModel.unpack = true := of_decide_eq_true h
  change x.toModel.unpack.isNaN = false
  cases hu : x.toModel.unpack with
  | notANumber =>
    rw [hu] at hle
    cases hle
  | infinity s => rfl
  | zero s => rfl
  | finite s m e hm => rfl

end StaffIndex.Binary64
