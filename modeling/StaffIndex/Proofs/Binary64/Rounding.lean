import Mathlib

/-!
# Rounding of double-precision numbers

A result is rounded in three moves: its significand is shifted until at most 53 bits are left, one is added or not for
what was shifted out, and the carry of that may call for one more shift.

- A significand that is long enough keeps exactly 53 bits (`roundWithAccuracy_full`, `round_full`), and a number of 53
  bits survives being packed into its bit pattern (`unpack_pack_full`).
- So counts below `2 ^ 64` become numbers of 53 bits (`normal_ofNat`).
- Such a number divided by itself is one (`div_self`).
-/

namespace StaffIndex.Binary64

open Float.Model Float.Model.UnpackedFloat

/-! ## Shifting -/

theorem targetExponent_eq (t : Int) : Format.binary64.targetExponent t = max (t - 53) (-1074) := by
  simp only [Format.targetExponent]
  rfl

theorem mantissa_shiftRight (em : ExtendedMantissa) (k : Nat) : (em >>> k).mantissa = em.mantissa / 2 ^ k := by
  change (k.repeat ExtendedMantissa.shiftRightOne em).mantissa = _
  induction k with
  | zero => simp [Nat.repeat]
  | succ k ih =>
    have hstep : (Nat.repeat ExtendedMantissa.shiftRightOne (k + 1) em).mantissa =
        (Nat.repeat ExtendedMantissa.shiftRightOne k em).mantissa / 2 := rfl
    rw [hstep, ih, Nat.div_div_eq_div_mul, ← Nat.pow_succ]

theorem mantissa_ofMantissaAndAccuracy (m : Nat) (a : Accuracy) :
    (ExtendedMantissa.ofMantissaAndAccuracy m a).mantissa = m := by
  rcases a with _ | o
  · rfl
  · cases o <;> rfl

/-- Rounding goes up by one or not at all. -/
theorem roundedMantissa_bounds (em : ExtendedMantissa) :
    em.mantissa ≤ em.roundedMantissa ∧ em.roundedMantissa ≤ em.mantissa + 1 := by
  unfold ExtendedMantissa.roundedMantissa
  rcases em.accuracy with _ | o
  · exact ⟨Nat.le_refl _, by simp [Accuracy.roundToNearestEven]⟩
  · cases o <;> simp only [Accuracy.roundToNearestEven] <;> omega

/-- The bits that stay after a shift that leaves 53 of them. -/
theorem div_two_pow_log2_bounds {m : Nat} (h : 52 ≤ m.log2) :
    2 ^ 52 ≤ m / 2 ^ (m.log2 - 52) ∧ m / 2 ^ (m.log2 - 52) < 2 ^ 53 := by
  have hm : m ≠ 0 := by rintro rfl; simp at h
  have hpos : 0 < 2 ^ (m.log2 - 52) := Nat.two_pow_pos _
  obtain ⟨hlow, hhigh⟩ := (Nat.log2_eq_iff hm).1 rfl
  have hsplit : m.log2 = 52 + (m.log2 - 52) := by omega
  constructor
  · rw [Nat.le_div_iff_mul_le hpos, ← Nat.pow_add, ← hsplit]
    exact hlow
  · rw [Nat.div_lt_iff_lt_mul hpos, ← Nat.pow_add]
    exact Nat.lt_of_lt_of_eq hhigh (by congr 1; omega)

/-! ## Rounding -/

/-- A number of the sign whose significand has all 53 bits, the lowest of them in a place from `low` to `high`. -/
def Full (s : Sign) (low high : Int) (u : UnpackedFloat) : Prop :=
  ∃ m e h, u = .finite s m e h ∧ (2 ^ 52 ≤ m ∧ m < 2 ^ 53) ∧ low ≤ e ∧ e ≤ high

theorem Full.mono {s : Sign} {low high low' high' : Int} {u : UnpackedFloat} (h : Full s low high u) (hlow : low' ≤ low)
    (hhigh : high ≤ high') : Full s low' high' u := by
  obtain ⟨m, e, hpos, hu, hm, he, he'⟩ := h
  exact ⟨m, e, hpos, hu, hm, by omega, by omega⟩

/-- Shifting a significand of 53 bits or more leaves 53 of them. -/
theorem shiftToTargetExponent_full {m : Nat} {e t : Int} (a : Accuracy) (ht : t = m.log2 + e - 52)
    (hlow : -1074 ≤ t) (he : e ≤ t) :
    ∃ em, shiftToTargetExponent .binary64 m e a = (em, t) ∧ 2 ^ 52 ≤ em.mantissa ∧ em.mantissa < 2 ^ 53 := by
  have hlog : 52 ≤ m.log2 := by omega
  have htarget : Format.binary64.targetExponent (totalExponent m e) = t := by
    rw [targetExponent_eq, totalExponent]
    omega
  have hshift : (t - e).toNat = m.log2 - 52 := by omega
  have hexp : e + ((m.log2 - 52 : Nat) : Int) = t := by omega
  refine ⟨ExtendedMantissa.ofMantissaAndAccuracy m a >>> (m.log2 - 52), ?_, ?_⟩
  · rw [shiftToTargetExponent, htarget, shiftToExponent, hshift, hexp]
  · rw [mantissa_shiftRight, mantissa_ofMantissaAndAccuracy]
    exact div_two_pow_log2_bounds hlog

theorem roundWithAccuracy_full {m : Nat} {e t : Int} (s : Sign) (a : Accuracy) (ht : t = m.log2 + e - 52)
    (hlow : -1074 ≤ t) (he : e ≤ t) : Full s t (t + 1) (roundWithAccuracy .binary64 s m e a) := by
  obtain ⟨em, hfirst, hm, hm'⟩ := shiftToTargetExponent_full a ht hlow he
  obtain ⟨hr, hr'⟩ := roundedMantissa_bounds em
  have hpos : em.roundedMantissa ≠ 0 := by omega
  have hlog : em.roundedMantissa.log2 = 52 ∨ em.roundedMantissa.log2 = 53 := by
    rcases Nat.lt_or_ge em.roundedMantissa (2 ^ 53) with hlt | hge
    · exact .inl ((Nat.log2_eq_iff hpos).2 ⟨by omega, hlt⟩)
    · exact .inr ((Nat.log2_eq_iff hpos).2 ⟨hge, by omega⟩)
  -- The carry of the rounding may call for one more shift.
  obtain ⟨fm, hsecond, hf⟩ := shiftToTargetExponent_full (m := em.roundedMantissa) (e := t) .exact rfl
    (by omega) (by omega)
  have hne : fm.mantissa ≠ 0 := by omega
  have hround : roundWithAccuracy .binary64 s m e a =
      .finite s fm.mantissa (em.roundedMantissa.log2 + t - 52) (Nat.pos_of_ne_zero hne) := by
    simp only [roundWithAccuracy, hfirst, hsecond, hne, dite_false]
  exact ⟨_, _, _, hround, hf, by omega, by omega⟩

theorem log2_shiftLeft {m : Nat} (h : m ≠ 0) (k : Nat) : (m <<< k).log2 = m.log2 + k := by
  obtain ⟨hlow, hhigh⟩ := (Nat.log2_eq_iff h).1 rfl
  have hpos : 0 < 2 ^ k := Nat.two_pow_pos k
  rw [Nat.shiftLeft_eq, Nat.log2_eq_iff (Nat.mul_ne_zero h (Nat.ne_of_gt hpos))]
  constructor
  · rw [Nat.pow_add]
    exact Nat.mul_le_mul_right _ hlow
  · rw [show m.log2 + k + 1 = m.log2 + 1 + k by omega, Nat.pow_add]
    exact Nat.mul_lt_mul_of_pos_right hhigh hpos

theorem round_full {m : Nat} {e t : Int} (s : Sign) (hm : m ≠ 0) (ht : t = m.log2 + e - 52) (hlow : -1074 ≤ t) :
    Full s t (t + 1) (UnpackedFloat.round .binary64 s m e) := by
  have htarget : Format.binary64.targetExponent (totalExponent m e) = t := by
    rw [targetExponent_eq, totalExponent]
    omega
  have hlog := log2_shiftLeft hm (e - t).toNat
  simp only [UnpackedFloat.round, htarget, decreaseExponent]
  exact roundWithAccuracy_full s .exact (by omega) hlow (by omega)

/-! ## Packing -/

theorem unpack_pack_full {s : Sign} {low high : Int} {u : UnpackedFloat} (h : Full s low high u)
    (hlow : -1074 ≤ low) (hhigh : high ≤ 971) : (Float.Model.pack u).unpack = u := by
  obtain ⟨m, e, hpos, rfl, ⟨hm, hm'⟩, he, he'⟩ := h
  have hlog : m.log2 = 52 := (Nat.log2_eq_iff (Nat.ne_of_gt hpos)).2 ⟨hm, hm'⟩
  have hbias : (Format.binary64.exponentBias : Int) = 1023 := rfl
  have hbits : (Format.binary64.mantissaBitsWithoutImplicit : Int) = 52 := rfl
  obtain ⟨b, hb⟩ : ∃ b : Nat, e + 1023 + 52 = b := ⟨(e + 1023 + 52).toNat, by omega⟩
  have hpack : UnpackedFloat.pack .binary64 (.finite s m e hpos) =
      packComponents .binary64 s (BitVec.ofNat 11 b) (BitVec.ofNat 52 m) := by
    simp only [UnpackedFloat.pack, hlog, hbias, hbits, hb, Int.toNat_natCast]
    rw [if_neg (by omega), if_pos (by decide)]
  have hexp : (BitVec.ofNat 11 b).toNat = b := by
    rw [BitVec.toNat_ofNat, Nat.mod_eq_of_lt (by omega)]
  have htop : BitVec.ofNat 11 b ≠ -1#11 := by
    intro heq
    have hnat := hexp.symm.trans (congrArg BitVec.toNat heq)
    simp at hnat
    omega
  have hzero : BitVec.ofNat 11 b ≠ 0#11 := by
    intro heq
    have hnat := hexp.symm.trans (congrArg BitVec.toNat heq)
    simp at hnat
    omega
  have hmant : (1#1 ++ BitVec.ofNat 52 m).toNat = m := by
    rw [BitVec.toNat_append, ← Nat.shiftLeft_add_eq_or_of_lt (BitVec.ofNat 52 m).isLt, BitVec.toNat_ofNat,
      Nat.shiftLeft_eq]
    simp
    omega
  change UnpackedFloat.unpack .binary64 (UnpackedFloat.pack .binary64 _) = _
  rw [hpack]
  simp only [UnpackedFloat.unpack, unpackMantissa_packComponents, unpackExponent_packComponents, unpackSign_packComponents,
    Sign.ofBitVec_toBitVec, htop, hzero, if_false, hexp, hmant, hbias, hbits]
  congr 1
  omega

/-! ## Numbers of full precision -/

/-- A positive number of full precision. -/
def Normal (x : Float) : Prop := Full .positive (-1074) 971 x.toModel.unpack

theorem unpack_mul (x y : Float) : (x * y).toModel.unpack =
    (Float.Model.pack (UnpackedFloat.mul .binary64 x.toModel.unpack y.toModel.unpack)).unpack := rfl

theorem unpack_toFloat {n : UInt64} (h : n.toNat ≠ 0) :
    Full .positive (n.toNat.log2 - 52) (n.toNat.log2 - 51) n.toFloat.toModel.unpack := by
  have hlog : n.toNat.log2 < 64 := (Nat.log2_lt h).2 n.toNat_lt
  have hround : UnpackedFloat.ofUInt64 .binary64 n = UnpackedFloat.round .binary64 .positive n.toNat 0 := by
    rw [UnpackedFloat.ofUInt64, UnpackedFloat.ofNat, UnpackedFloat.ofInt, UnpackedFloat.normalize,
      Int.compare_eq_gt.2 (by omega), Int.toNat_natCast]
  have hfull := round_full (e := 0) (t := n.toNat.log2 - 52) .positive h (by omega) (by omega)
  change Full _ _ _ (Float.Model.pack (UnpackedFloat.ofUInt64 .binary64 n)).unpack
  rw [hround, unpack_pack_full hfull (by omega) (by omega)]
  exact hfull.mono (Int.le_refl _) (by omega)

/-- Products of long significands keep 53 bits. -/
theorem mul_full {s₁ s₂ s : Sign} {m₁ m₂ : Nat} {e₁ e₂ t : Int} (h₁ : 0 < m₁) (h₂ : 0 < m₂) (hs : s₁ * s₂ = s)
    (ht : t = (m₁ * m₂).log2 + (e₁ + e₂) - 52) (hlow : -1074 ≤ t) (he : e₁ + e₂ ≤ t) :
    Full s t (t + 1) (UnpackedFloat.mul .binary64 (.finite s₁ m₁ e₁ h₁) (.finite s₂ m₂ e₂ h₂)) := by
  subst hs
  rw [UnpackedFloat.mul]
  exact roundWithAccuracy_full _ .exact ht hlow he

/-- Counts of 53 bits and less are converted as they are. -/
theorem normal_ofNat_short {n : Nat} (h : n ≠ 0) (hn : n < 2 ^ 64) : Normal (n.toUInt64.toFloat * 1) := by
  have hlog : n.log2 < 64 := (Nat.log2_lt h).2 hn
  have hone : (1 : Float).toModel.unpack = .finite .positive (2 ^ 52) (-52) (by decide) := rfl
  have hval : n.toUInt64.toNat = n := Nat.mod_eq_of_lt hn
  have hfloat := unpack_toFloat (n := n.toUInt64) (by omega)
  rw [hval] at hfloat
  obtain ⟨m, e, hpos, hu, hm, he, he'⟩ := hfloat
  have hprod : (m * 2 ^ 52).log2 = 104 := (Nat.log2_eq_iff (by omega)).2 ⟨by omega, by omega⟩
  have hfull : Full .positive e (e + 1) (UnpackedFloat.mul .binary64 (.finite .positive m e hpos)
      (.finite .positive (2 ^ 52) (-52) (by decide))) := mul_full hpos _ rfl (by omega) (by omega) (by omega)
  rw [Normal, unpack_mul, hu, hone, unpack_pack_full hfull (by omega) (by omega)]
  exact hfull.mono (by omega) (by omega)

/-- Longer counts are rounded. -/
theorem full_ofScientific {n : Nat} (h : n ≠ 0) (hn : n < 2 ^ 64) :
    Full .positive (n.log2 - 52) (n.log2 - 51) (UnpackedFloat.ofScientific .binary64 n 0) := by
  have hlog : n.log2 < 64 := (Nat.log2_lt h).2 hn
  have hbits : Format.binary64.mantissaBits = 53 := rfl
  have hlarge : ¬ (0 : Int) > 2 ^ Format.binary64.exponentBits := by decide
  have hsmall : ¬ (0 : Int) < -((2 ^ Format.binary64.exponentBits : Int) + n.log2) := by
    have hpow : (2 ^ Format.binary64.exponentBits : Int) = 2048 := rfl
    omega
  have hprod : (n <<< 53 * 10 ^ (0 : Int).toNat).log2 = n.log2 + 53 := by
    rw [Int.toNat_zero, Nat.pow_zero, Nat.mul_one, log2_shiftLeft h]
  rw [UnpackedFloat.ofScientific, dif_neg h, if_neg hlarge, if_neg hsmall, if_pos (Int.le_refl 0)]
  simp only [hbits]
  exact (mul_full (t := n.log2 - 52) _ _ rfl (by omega) (by omega) (by omega)).mono (Int.le_refl _) (by omega)

/-- Counts below `2 ^ 64` are numbers of full precision, once rounded. -/
theorem normal_ofNat {n : Nat} (h : n ≠ 0) (hn : n < 2 ^ 64) : Normal (Float.ofNat n) := by
  have hlog : n.log2 < 64 := (Nat.log2_lt h).2 hn
  change Normal (Float.ofScientific n false 0)
  unfold Float.ofScientific
  split
  · exact normal_ofNat_short h hn
  · have hfull := full_ofScientific h hn
    change Full _ _ _ (Float.Model.pack (UnpackedFloat.ofScientific .binary64 n 0)).unpack
    rw [unpack_pack_full hfull (by omega) (by omega)]
    exact hfull.mono (by omega) (by omega)

/-- The quotient of a number by itself. -/
theorem div_self {x : Float} (h : Normal x) : x / x = 1 := by
  obtain ⟨m, e, hpos, hx, -⟩ := h
  have hcore : divCore .binary64 m e m e = (2 ^ 53, -53, .exact) := by
    have htarget : min (0 : Int) (Format.binary64.targetExponent 0) = -53 := by decide
    have hquot : m <<< 53 / m = 2 ^ 53 := by
      rw [Nat.shiftLeft_eq, Nat.mul_div_cancel_left _ hpos]
    have hrem : m <<< 53 % m = 0 := by
      rw [Nat.shiftLeft_eq, Nat.mul_mod_right]
    simp only [divCore, Int.sub_self, htarget]
    change (m <<< 53 / m, (-53 : Int), accuracyOfFraction (m <<< 53 % m) m) = _
    rw [hquot, hrem]
    rfl
  have hdiv : UnpackedFloat.div .binary64 (.finite .positive m e hpos) (.finite .positive m e hpos) =
      .finite .positive (2 ^ 52) (-52) (by decide) := by
    simp only [UnpackedFloat.div, hcore]
    rfl
  change Float.ofModel (.pack (UnpackedFloat.div .binary64 x.toModel.unpack x.toModel.unpack)) = _
  rw [hx, hdiv]
  rfl

end StaffIndex.Binary64
